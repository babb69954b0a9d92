import SchemaGo.Proofs.Render.Chain
import SchemaGo.Render.Enum
import SchemaGo.Render.Struct

/-! Renderings that keep what the hooks of the declaration are told. A last preset whose only hook is for
the declaration works on the text of the rendering without it, in the same context, and the rest of the
rendering goes on as before. -/

namespace SchemaGo.Render

open Model (ModelNode)

variable {m : Type → Type} [Monad m]

/-- The text of a struct with the context of its declaration. -/
def structRun (r : Renderer) (presets : Stack (StructPreset m)) (n : ModelNode) :
    ExceptT RenderError m (StructContext × String) := do
  let (type, fields) ← liftExcept (structShape n)
  let lines ← fields.mapM fun field =>
    presets.run .field type (·.field.map (· ⟨n, r, field⟩)) ""
  let context : StructContext := ⟨n, r, type⟩
  let additional ← presets.run .additionalContent type (·.additionalContent.map (· context)) ""
  let text ← presets.run .self type (·.self.map (· context)) (structBody r lines additional)
  return (context, text)

/-- The text of an enum with the context of its declaration. -/
def enumRun (r : Renderer) (presets : Stack (EnumPreset m)) (n : ModelNode) :
    ExceptT RenderError m (EnumContext × String) := do
  let (type, constants) ← liftExcept (enumShape n)
  let backing := backingType n
  let items ← constants.zipIdx.mapM fun ((name, value), i) =>
    presets.run .item type (·.item.map (· ⟨n, r, type, backing, name, value, i⟩)) ""
  let context : EnumContext := ⟨n, r, type, backing, items⟩
  let text ← presets.run .self type (·.self.map (· context)) (enumDeclaration r type backing)
  return (context, text)

variable [LawfulMonad m]

theorem renderStruct_eq (r : Renderer) (presets : Stack (StructPreset m)) (n : ModelNode) :
    renderStruct r presets n = (·.2) <$> structRun r presets n := by
  simp [renderStruct, structRun]

theorem renderEnum_eq (r : Renderer) (presets : Stack (EnumPreset m)) (n : ModelNode) :
    renderEnum r presets n = (·.2) <$> enumRun r presets n := by
  simp [renderEnum, enumRun]

/-! ### A last hook for the declaration -/

/-- What a hook for declarations makes of a text in its context, as the stage `stage`. -/
def declare {C : Type} (stage : Nat) (typeName : C → String) (hook : C → Hook m) (run : C × String) :
    ExceptT RenderError m String :=
  ExceptT.adapt (.hookFailure (typeName run.1) .self stage ·) (hook run.1 run.2)

theorem renderStruct_push (r : Renderer) (presets : Stack (StructPreset m)) (n : ModelNode)
    (hook : StructContext → Hook m) :
    renderStruct r (presets.push { self := some hook }) n =
      structRun r presets n >>= declare presets.size (·.typeName) hook := by
  simp [renderStruct, structRun, Stack.run_push, declare]

theorem renderEnum_push (r : Renderer) (presets : Stack (EnumPreset m)) (n : ModelNode)
    (hook : EnumContext → Hook m) :
    renderEnum r (presets.push { self := some hook }) n =
      enumRun r presets n >>= declare presets.size (·.typeName) hook := by
  simp [renderEnum, enumRun, Stack.run_push, declare]

end SchemaGo.Render
