import SchemaGo.Code.Builder
import SchemaGo.Render.Constant
import SchemaGo.Render.Preset

/-! Enums: a named type over the backing type of its values and a block of named constants. Constants
cannot have the type of any value, so such an enum has variables. Two values of one constant name are
refused before any hook runs. -/

namespace SchemaGo.Render

open Code (Builder)
open Json (Value)
open Model (ModelNode)

/-- The type name of an enum and its values with the names of their constants, unless it has no name
or two constants share theirs. -/
def enumShape (n : ModelNode) : Except RenderError (String × List (String × Value)) := do
  let type ← modelTypeName n
  let constants := (n.enumValues.getD []).map fun v => (constantName type v, v)
  match firstRepeat? (·.1) constants with
  | some (name, first, second) =>
    .error (.enumConstantCollision type name first.2.text second.2.text)
  | none => .ok (type, constants)

/-- Whether a constant states the type of its enum. An untyped `nil` initializes nothing. -/
def statesType (c : ItemContext) : Bool :=
  c.index = 0 || c.value.isNull || c.renderer.options.constantTyping = .every

def constantLine (c : ItemContext) : String :=
  c.constantName ++ (if statesType c then " " ++ c.typeName else "") ++ " = " ++ literal c.value

/-- What an enum is said to be of. -/
def describe (backing : TypeExpr) : String :=
  if backing = .any then "mixed types" else backing.text

/-- The comment and the type line of an enum. -/
def enumDeclaration (r : Renderer) (type : String) (backing : TypeExpr) : String :=
  (Builder.start r.options.indent)
    |>.comment (type ++ " represents an enum of " ++ describe backing ++ ".")
    |>.line ("type " ++ type ++ " " ++ backing.text)
    |>.trimmed

/-- The declaration followed by the block of constants, if any are left. -/
def enumBlock (c : EnumContext) (declaration : String) : String :=
  match c.items.filter (!·.isEmpty) with
  | [] => declaration
  | constants =>
    (Builder.start c.renderer.options.indent)
      |>.text declaration
      |>.blank
      |>.block ((if c.backingType = .any then "var" else "const") ++ " (") ")"
        (·.each constants Builder.text)
      |>.trimmed

variable {m : Type → Type} [Monad m]

def EnumPreset.default : EnumPreset m where
  self := some fun c declaration => pure (enumBlock c declaration)
  item := some fun c _ => pure (constantLine c)

/-- Renders an enum through a stack of presets. -/
def renderEnum (r : Renderer) (presets : Stack (EnumPreset m)) (n : ModelNode) :
    ExceptT RenderError m String := do
  let (type, constants) ← liftExcept (enumShape n)
  let backing := backingType n
  let items ← constants.zipIdx.mapM fun ((name, value), i) =>
    presets.run .item type (·.item.map (· ⟨n, r, type, backing, name, value, i⟩)) ""
  presets.run .self type (·.self.map (· ⟨n, r, type, backing, items⟩))
    (enumDeclaration r type backing)

end SchemaGo.Render
