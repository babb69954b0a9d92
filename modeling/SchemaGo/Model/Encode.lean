import SchemaGo.Json.Printer
import SchemaGo.Model.Index

/-! The JSON form of models. Fields stand in a fixed order and absent or empty ones are left out, but
an empty list of enum values is written. -/

namespace SchemaGo.Model

open Json (Value)

def TypeTag.json (t : TypeTag) : Value :=
  .string t.name

def ModelType.json : ModelType → Value
  | .single tag => tag.json
  | .mixed tags => .array (tags.toList.map TypeTag.json)

namespace ModelNode

/-- A field that is written if there is a value. -/
def optionField (key : String) : Option Value → List (String × Value)
  | none => []
  | some v => [(key, v)]

/-- A field that is written if the object has members. -/
def objectField (key : String) : List (String × Value) → List (String × Value)
  | [] => []
  | members => [(key, .object members)]

/-- A field that is written if the array has items. -/
def arrayField (key : String) : List Value → List (String × Value)
  | [] => []
  | items => [(key, .array items)]

mutual

def json : ModelNode → Value
  | ⟨id, type, properties, required, additional, patterns, items, tuple, variants, reference, values⟩ =>
    .object (optionField "$id" (id.map .string)
      ++ optionField "type" (type.map ModelType.json)
      ++ objectField "properties" (entriesJson properties)
      ++ arrayField "required" (required.toList.map .string)
      ++ optionField "additionalProperties" (optionJson additional)
      ++ objectField "patternProperties" (entriesJson patterns)
      ++ optionField "items" (optionJson items)
      ++ arrayField "tupleItems" (listJson tuple)
      ++ arrayField "variants" (listJson variants)
      ++ optionField "$ref" (reference.map .string)
      ++ optionField "enum" (values.map .array))

def entriesJson : List (String × ModelNode) → List (String × Value)
  | [] => []
  | (k, n) :: r => (k, json n) :: entriesJson r

def optionJson : Option ModelNode → Option Value
  | none => none
  | some n => some (json n)

def listJson : List ModelNode → List Value
  | [] => []
  | n :: r => json n :: listJson r

end

end ModelNode

def Index.json (x : Index) : Value :=
  .object [("models", .object (ModelNode.entriesJson x.entries))]

end SchemaGo.Model
