import Mathlib.Data.List.Forall2
import Mathlib.Data.Option.Basic
import SchemaGo.Proofs.Render.Context

/-! Renderings under hooks that do the same on different states. Where the hooks of two stacks agree from
related states and leave related states behind, so do whole renderings. The relation may be any: that one
state is a part of the other, or that one sums the other up. -/

namespace SchemaGo.Render

open Model (ModelNode)

variable {σ τ ε α β : Type} {I : σ → τ → Prop}

theorem run_bind_of_ok {p : ExceptT ε (StateM σ) α} {s s' : σ} {a : α} (h : p.run.run s = (.ok a, s'))
    (f : α → ExceptT ε (StateM σ) β) : (p >>= f).run.run s = (f a).run.run s' := by
  rw [ExceptT.run_bind, StateT.run_bind, h]
  rfl

theorem run_bind_of_error {p : ExceptT ε (StateM σ) α} {s s' : σ} {e : ε}
    (h : p.run.run s = (.error e, s')) (f : α → ExceptT ε (StateM σ) β) :
    (p >>= f).run.run s = (.error e, s') := by
  rw [ExceptT.run_bind, StateT.run_bind, h]
  rfl

theorem run_map {p : ExceptT ε (StateM σ) α} {s s' : σ} {result : Except ε α}
    (h : p.run.run s = (result, s')) (f : α → β) : (f <$> p).run.run s = (result.map f, s') := by
  rw [ExceptT.run_map, StateT.run_map, h]
  rfl

theorem run_adapt {p : ExceptT ε (StateM σ) α} {s s' : σ} {result : Except ε α} {ε' : Type}
    (h : p.run.run s = (result, s')) (f : ε → ε') :
    (ExceptT.adapt f p).run.run s = (result.mapError f, s') := by
  rw [ExceptT.run_adapt, StateT.run_map, h]
  rfl

theorem run_declare {C : Type} (stage : Nat) (typeName : C → String) {hook : C → Hook (StateM σ)} {c : C}
    {text : String} {s s' : σ} {returned : Except String String}
    (h : (hook c text).run.run s = (returned, s')) :
    (declare stage typeName hook (c, text)).run.run s =
      (returned.mapError (.hookFailure (typeName c) .self stage ·), s') :=
  run_adapt h _

/-- From related states the two computations have one result and end in related states. -/
def Simulates (I : σ → τ → Prop) (p : ExceptT ε (StateM σ) α) (q : ExceptT ε (StateM τ) α) : Prop :=
  ∀ s t, I s t → ∃ result s' t', p.run.run s = (result, s') ∧ q.run.run t = (result, t') ∧ I s' t'

namespace Simulates

variable {p : ExceptT ε (StateM σ) α} {q : ExceptT ε (StateM τ) α}

theorem pure (a : α) : Simulates I (pure a : ExceptT ε (StateM σ) α) (pure a) := fun s t h =>
  ⟨.ok a, s, t, rfl, rfl, h⟩

theorem throw (e : ε) : Simulates I (throw e : ExceptT ε (StateM σ) α) (throw e) := fun s t h =>
  ⟨.error e, s, t, rfl, rfl, h⟩

theorem liftExcept (x : Except ε α) :
    Simulates I (liftExcept x : ExceptT ε (StateM σ) α) (liftExcept x) := by
  cases x with
  | ok a => exact pure a
  | error e => exact throw e

theorem bind {f : α → ExceptT ε (StateM σ) β} {g : α → ExceptT ε (StateM τ) β}
    (hp : Simulates I p q) (hf : ∀ a, Simulates I (f a) (g a)) :
    Simulates I (p >>= f) (q >>= g) := by
  intro s t h
  obtain ⟨result, s', t', hp, hq, h'⟩ := hp s t h
  cases result with
  | ok a =>
    rw [run_bind_of_ok hp, run_bind_of_ok hq]
    exact hf a s' t' h'
  | error e => exact ⟨.error e, s', t', run_bind_of_error hp f, run_bind_of_error hq g, h'⟩

theorem map (f : α → β) (h : Simulates I p q) : Simulates I (f <$> p) (f <$> q) := by
  intro s t hst
  obtain ⟨result, s', t', hp, hq, h'⟩ := h s t hst
  exact ⟨result.map f, s', t', run_map hp f, run_map hq f, h'⟩

theorem adapt {ε' : Type} (f : ε → ε') (h : Simulates I p q) :
    Simulates I (ExceptT.adapt f p) (ExceptT.adapt f q) := by
  intro s t hst
  obtain ⟨result, s', t', hp, hq, h'⟩ := h s t hst
  exact ⟨result.mapError f, s', t', run_adapt hp f, run_adapt hq f, h'⟩

theorem mapM {f : β → ExceptT ε (StateM σ) α} {g : β → ExceptT ε (StateM τ) α}
    (h : ∀ b, Simulates I (f b) (g b)) (l : List β) : Simulates I (l.mapM f) (l.mapM g) := by
  induction l with
  | nil => exact pure []
  | cons b l ih =>
    rw [List.mapM_cons, List.mapM_cons]
    exact (h b).bind fun a => ih.bind fun as => pure (a :: as)

end Simulates

/-! ### Chains and stacks -/

/-- Two hooks that do the same from related states. -/
def Hook.Simulates (I : σ → τ → Prop) (h : Hook (StateM σ)) (k : Hook (StateM τ)) : Prop :=
  ∀ content, Render.Simulates I (h content) (k content)

namespace Simulates

theorem runFrom (stage : Nat) {hooks : List (Option (Hook (StateM σ)))}
    {hooks' : List (Option (Hook (StateM τ)))}
    (h : List.Forall₂ (Option.Rel (Hook.Simulates I)) hooks hooks') (content : String) :
    Simulates I (runFrom stage hooks content) (runFrom stage hooks' content) := by
  induction h generalizing stage content with
  | nil => exact pure content
  | cons hfirst _ ih =>
    cases hfirst with
    | none => exact ih (stage + 1) content
    | some hhook => exact ((hhook content).adapt _).bind fun text => ih (stage + 1) text

theorem stackRun {P Q : Type} {R : P → Q → Prop} {presets : Stack P} {presets' : Stack Q}
    (h : List.Forall₂ R presets.stages presets'.stages) (hook : HookName) (model : String)
    {select : P → Option (Hook (StateM σ))} {select' : Q → Option (Hook (StateM τ))}
    (hselect : ∀ p q, R p q → Option.Rel (Hook.Simulates I) (select p) (select' q)) (seed : String) :
    Simulates I (presets.run hook model select seed) (presets'.run hook model select' seed) := by
  refine adapt _ (runFrom 0 ?_ seed)
  rw [List.forall₂_map_left_iff, List.forall₂_map_right_iff]
  exact h.imp hselect

end Simulates

/-! ### Renderings -/

/-- Hooks in the same context do the same from related states. -/
def ContextHook.Simulates {C : Type} (I : σ → τ → Prop) :
    Option (C → Hook (StateM σ)) → Option (C → Hook (StateM τ)) → Prop :=
  Option.Rel fun h k => ∀ c, Hook.Simulates I (h c) (k c)

theorem ContextHook.Simulates.at {C : Type} {hook : Option (C → Hook (StateM σ))}
    {hook' : Option (C → Hook (StateM τ))} (h : ContextHook.Simulates I hook hook') (c : C) :
    Option.Rel (Hook.Simulates I) (hook.map (· c)) (hook'.map (· c)) := by
  cases h with
  | none => exact .none
  | some h => exact .some (h c)

structure StructPreset.Simulates (I : σ → τ → Prop) (p : StructPreset (StateM σ))
    (q : StructPreset (StateM τ)) : Prop where
  self : ContextHook.Simulates I p.self q.self
  field : ContextHook.Simulates I p.field q.field
  additionalContent : ContextHook.Simulates I p.additionalContent q.additionalContent

structure EnumPreset.Simulates (I : σ → τ → Prop) (p : EnumPreset (StateM σ))
    (q : EnumPreset (StateM τ)) : Prop where
  self : ContextHook.Simulates I p.self q.self
  item : ContextHook.Simulates I p.item q.item

theorem simulates_structRun {presets : Stack (StructPreset (StateM σ))}
    {presets' : Stack (StructPreset (StateM τ))}
    (h : List.Forall₂ (StructPreset.Simulates I) presets.stages presets'.stages) (r : Renderer)
    (n : ModelNode) : Simulates I (structRun r presets n) (structRun r presets' n) := by
  refine (Simulates.liftExcept _).bind fun ⟨type, fields⟩ => ?_
  refine (Simulates.mapM (fun field => ?_) fields).bind fun lines => ?_
  · exact .stackRun h .field type (fun p q hpq => hpq.field.at ⟨n, r, field⟩) ""
  refine .bind (.stackRun h .additionalContent type (fun p q hpq => hpq.additionalContent.at _) "")
    fun additional => ?_
  exact .bind (.stackRun h .self type (fun p q hpq => hpq.self.at _) _) fun text => .pure _

theorem simulates_enumRun {presets : Stack (EnumPreset (StateM σ))}
    {presets' : Stack (EnumPreset (StateM τ))}
    (h : List.Forall₂ (EnumPreset.Simulates I) presets.stages presets'.stages) (r : Renderer)
    (n : ModelNode) : Simulates I (enumRun r presets n) (enumRun r presets' n) := by
  refine (Simulates.liftExcept _).bind fun ⟨type, constants⟩ => ?_
  refine (Simulates.mapM (fun constant => ?_) constants.zipIdx).bind fun items => ?_
  · exact .stackRun h .item type (fun p q hpq => hpq.item.at _) ""
  exact .bind (.stackRun h .self type (fun p q hpq => hpq.self.at _) _) fun text => .pure _

end SchemaGo.Render
