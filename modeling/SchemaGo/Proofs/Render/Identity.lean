import SchemaGo.Proofs.Render.Chain
import SchemaGo.Proofs.Render.Protocol

/-! Presets that do nothing. Put in anywhere in a stack, such a preset leaves the rendering of every model
as it is, with its effects, and only the stages behind it get the next numbers. -/

namespace SchemaGo.Render

open Model (ModelNode)

variable {m : Type → Type} [Monad m]

/-- The hooks that there are return their content and have no effect. -/
structure StructPreset.IsIdentity (p : StructPreset m) : Prop where
  self : ∀ hook ∈ p.self, ∀ c content, hook c content = pure content
  field : ∀ hook ∈ p.field, ∀ c content, hook c content = pure content
  additionalContent : ∀ hook ∈ p.additionalContent, ∀ c content, hook c content = pure content

/-- The hooks that there are return their content and have no effect. -/
structure EnumPreset.IsIdentity (p : EnumPreset m) : Prop where
  self : ∀ hook ∈ p.self, ∀ c content, hook c content = pure content
  item : ∀ hook ∈ p.item, ∀ c content, hook c content = pure content

/-- An identity hook is one in every context. -/
theorem identity_of_context {C : Type} {hook : Option (C → Hook m)}
    (h : ∀ k ∈ hook, ∀ c content, k c content = pure content) (c : C) :
    ∀ k ∈ hook.map (· c), ∀ content, k content = pure content := by
  intro k hk content
  obtain ⟨k, hmem, rfl⟩ := Option.map_eq_some_iff.1 hk
  exact h k hmem c content

/-- Only the failure of a hook names a stage. -/
theorem RenderError.after_of_not_hookFailed {α : Type} {result : Except RenderError α}
    (h : ¬ HookFailed result) (first : Nat) : ∀ e, result = .error e → e.after first = e := by
  rintro e rfl
  cases e with
  | hookFailure model hook stage source => exact absurd ⟨model, hook, stage, source, rfl⟩ h
  | _ => rfl

variable [LawfulMonad m]

theorem renderStruct_insert {p : StructPreset m} (h : p.IsIdentity) (r : Renderer)
    (default : StructPreset m) (callers later : List (StructPreset m)) (n : ModelNode) :
    renderStruct r ⟨default, callers ++ p :: later⟩ n =
      ExceptT.adapt (RenderError.after (callers.length + 1))
        (renderStruct r ⟨default, callers ++ later⟩ n) := by
  have hshape := RenderError.after_of_not_hookFailed (not_hookFailed_structShape n) (callers.length + 1)
  unfold renderStruct
  rw [adapt_bind, adapt_liftExcept hshape]
  refine bind_congr fun ⟨type, fields⟩ => ?_
  have hfield (c : FieldContext) :=
    Stack.run_insert .field type (fun q : StructPreset m => q.field.map (· c))
      (identity_of_context h.field c)
  have hadditional (c : StructContext) :=
    Stack.run_insert .additionalContent type (fun q : StructPreset m => q.additionalContent.map (· c))
      (identity_of_context h.additionalContent c)
  have hself (c : StructContext) :=
    Stack.run_insert .self type (fun q : StructPreset m => q.self.map (· c))
      (identity_of_context h.self c)
  simp only [adapt_bind, adapt_mapM, hfield, hadditional, hself]

theorem renderEnum_insert {p : EnumPreset m} (h : p.IsIdentity) (r : Renderer)
    (default : EnumPreset m) (callers later : List (EnumPreset m)) (n : ModelNode) :
    renderEnum r ⟨default, callers ++ p :: later⟩ n =
      ExceptT.adapt (RenderError.after (callers.length + 1))
        (renderEnum r ⟨default, callers ++ later⟩ n) := by
  have hshape := RenderError.after_of_not_hookFailed (not_hookFailed_enumShape n) (callers.length + 1)
  unfold renderEnum
  rw [adapt_bind, adapt_liftExcept hshape]
  refine bind_congr fun ⟨type, constants⟩ => ?_
  have hitem (c : ItemContext) :=
    Stack.run_insert .item type (fun q : EnumPreset m => q.item.map (· c)) (identity_of_context h.item c)
  have hself (c : EnumContext) :=
    Stack.run_insert .self type (fun q : EnumPreset m => q.self.map (· c)) (identity_of_context h.self c)
  simp only [adapt_bind, adapt_mapM, hitem, hself]

end SchemaGo.Render
