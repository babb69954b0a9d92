import SchemaGo.Json.Printer
import SchemaGo.Type.OfNode

/-! The constants of an enum: the type they have, their names and their literals. -/

namespace SchemaGo.Render

open Json (Value)
open Model (ModelNode)

/-- The type that an enum is declared over. An enum with a null needs the type of any value. -/
def backingType (m : ModelNode) : TypeExpr :=
  if (m.enumValues.getD []).any Value.isNull then .any
  else (m.singleType?.bind TypeExpr.ofScalar?).getD .any

/-- What a constant's name adds to the type name: the value's text in Pascal case, with a word for the
sign of a number, and a word for a text without usable characters. -/
def constantSuffix (v : Value) : String :=
  match v, v.plainText.toList with
  | .number _, '-' :: rest => "Minus" ++ Text.pascalCase (String.ofList rest)
  | _, cs =>
    let suffix := Text.pascalCase (String.ofList cs)
    if suffix.isEmpty then "Empty" else suffix

def constantName (type : String) (v : Value) : String :=
  type ++ constantSuffix v

/-- The literal of a value. An array or an object is written as the string of its JSON text. -/
def literal : Value → String
  | .null => "nil"
  | .array items => Json.quote (Value.array items).text
  | .object members => Json.quote (Value.object members).text
  | v => v.text

end SchemaGo.Render
