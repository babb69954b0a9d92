import SchemaGo.Code.Builder
import SchemaGo.Render.Preset

/-! Structs. Declared fields come first, then the field of the undeclared keys, then one field for each
pattern. Two fields of one name are refused before any hook runs. -/

namespace SchemaGo.Render

open Code (Builder)
open Model (ModelNode)

/-- The fields of a struct in the order of its body. -/
def structFields (n : ModelNode) : List Field :=
  n.properties.map (fun (key, node) => ⟨key, node, .property⟩)
    ++ n.additionalProperties.toList.map (⟨Model.additionalName, ·, .additional⟩)
    ++ n.patternProperties.map (fun (pattern, node) => ⟨Model.patternName pattern, node, .pattern⟩)

/-- The type name and the fields of a struct, unless it has no name or two fields share theirs. -/
def structShape (n : ModelNode) : Except RenderError (String × List Field) := do
  let type ← modelTypeName n
  let fields := structFields n
  match firstRepeat? (fieldName ·.key) fields with
  | some (name, first, second) => .error (.fieldNameCollision type name first.key second.key)
  | none => .ok (type, fields)

/-- The line of a field: a dictionary for a synthetic field, and otherwise the type, behind a star
unless the field is required, and the tag that keeps the key. -/
def fieldLine (c : FieldContext) : String :=
  let name := fieldName c.field.key
  let type := c.renderer.typeText c.field.node
  if c.field.origin.isSynthetic then name ++ " " ++ TypeExpr.dictionaryText type
  else
    name ++ " " ++ (if c.isRequired then type else TypeExpr.optionalText type)
      ++ " `json:\"" ++ c.field.key ++ ",omitempty\"`"

/-- The comment, the opening line, the body and the closing line of a struct. -/
def structDeclaration (c : StructContext) (body : String) : String :=
  (Builder.start c.renderer.options.indent)
    |>.comment (c.typeName ++ " represents a " ++ c.typeName ++ " model.")
    |>.line ("type " ++ c.typeName ++ " struct \x7b")
    |>.text body
    |>.line "\x7d"
    |>.trimmed

/-- The body of a struct: its lines and the additional content, without the empty ones. -/
def structBody (r : Renderer) (lines : List String) (additional : String) : String :=
  r.options.indent.apply ("\n".intercalate ((lines ++ [additional]).filter (!·.isEmpty)))

variable {m : Type → Type} [Monad m]

def StructPreset.default : StructPreset m where
  self := some fun c body => pure (structDeclaration c body)
  field := some fun c _ => pure (fieldLine c)

/-- Renders a struct through a stack of presets. -/
def renderStruct (r : Renderer) (presets : Stack (StructPreset m)) (n : ModelNode) :
    ExceptT RenderError m String := do
  let (type, fields) ← liftExcept (structShape n)
  let lines ← fields.mapM fun field =>
    presets.run .field type (·.field.map (· ⟨n, r, field⟩)) ""
  let context : StructContext := ⟨n, r, type⟩
  let additional ← presets.run .additionalContent type (·.additionalContent.map (· context)) ""
  presets.run .self type (·.self.map (· context)) (structBody r lines additional)

end SchemaGo.Render
