import SchemaGo.Generate.Generator
import SchemaGo.Proofs.Render.Chain

/-! Rendering without presets of a caller. The default hooks neither fail nor record anything, so the
result is a text as soon as the model has a shape. -/

namespace SchemaGo.Render

open Json (Value)
open Model (ModelNode)

section

variable {m : Type → Type} [Monad m] [LawfulMonad m]

/-- A hook that neither fails nor has another effect gives its text. -/
theorem run_pure {P : Type} {p : P} {hook : HookName} {model seed : String}
    {select : P → Option (Hook m)} {g : String → String} (h : select p = some fun s => pure (g s)) :
    (⟨p, []⟩ : Stack P).run hook model select seed = pure (g seed) := by
  simp [Stack.run, Stack.stages, h, runFrom, adapt_pure]

theorem run_absent {P : Type} {p : P} {hook : HookName} {model seed : String}
    {select : P → Option (Hook m)} (h : select p = none) :
    (⟨p, []⟩ : Stack P).run hook model select seed = pure seed := by
  simp [Stack.run, Stack.stages, h, runFrom, adapt_pure]

/-- The text of a struct under the default presets. -/
def plainStruct (r : Renderer) (n : ModelNode) : Except RenderError String :=
  (structShape n).map fun (type, fields) =>
    structDeclaration ⟨n, r, type⟩ (structBody r (fields.map fun f => fieldLine ⟨n, r, f⟩) "")

/-- The text of an enum under the default presets. -/
def plainEnum (r : Renderer) (n : ModelNode) : Except RenderError String :=
  (enumShape n).map fun (type, constants) =>
    enumBlock ⟨n, r, type, backingType n, constants.zipIdx.map fun ((name, value), i) =>
      constantLine ⟨n, r, type, backingType n, name, value, i⟩⟩ (enumDeclaration r type (backingType n))

theorem renderStruct_default (r : Renderer) (n : ModelNode) :
    renderStruct (m := m) r ⟨.default, []⟩ n = liftExcept (plainStruct r n) := by
  unfold renderStruct plainStruct
  cases structShape n with
  | error e => exact ExceptT.ext (by simp [liftExcept, Except.map])
  | ok shape =>
    obtain ⟨type, fields⟩ := shape
    have hself : ∀ (c : StructContext) (body : String),
        (⟨StructPreset.default, []⟩ : Stack (StructPreset m)).run .self type (·.self.map (· c)) body =
          pure (structDeclaration c body) := fun c body => run_pure rfl
    have hfield : ∀ c : FieldContext,
        (⟨StructPreset.default, []⟩ : Stack (StructPreset m)).run .field type (·.field.map (· c)) "" =
          pure (fieldLine c) := fun c => run_pure rfl
    have hadditional : ∀ c : StructContext,
        (⟨StructPreset.default, []⟩ : Stack (StructPreset m)).run .additionalContent type
          (·.additionalContent.map (· c)) "" = pure "" := fun c => run_absent rfl
    simp only [liftExcept, Except.map, pure_bind, hself, hfield, hadditional, List.mapM_pure]

theorem renderEnum_default (r : Renderer) (n : ModelNode) :
    renderEnum (m := m) r ⟨.default, []⟩ n = liftExcept (plainEnum r n) := by
  unfold renderEnum plainEnum
  cases enumShape n with
  | error e => exact ExceptT.ext (by simp [liftExcept, Except.map])
  | ok shape =>
    obtain ⟨type, constants⟩ := shape
    have hself : ∀ (c : EnumContext) (declaration : String),
        (⟨EnumPreset.default, []⟩ : Stack (EnumPreset m)).run .self type (·.self.map (· c)) declaration =
          pure (enumBlock c declaration) := fun c declaration => run_pure rfl
    have hitem : ∀ c : ItemContext,
        (⟨EnumPreset.default, []⟩ : Stack (EnumPreset m)).run .item type (·.item.map (· c)) "" =
          pure (constantLine c) := fun c => run_pure rfl
    simp only [liftExcept, Except.map, pure_bind, hself, hitem, List.mapM_pure]

end

end SchemaGo.Render

namespace SchemaGo.Generate

open Model (Index ModelNode)
open Render (RenderError plainStruct plainEnum)

theorem collect_liftExcept (e : Except RenderError String) :
    collect (liftExcept e) = e.map fun text => ⟨text, []⟩ := by
  cases e <;> rfl

end SchemaGo.Generate
