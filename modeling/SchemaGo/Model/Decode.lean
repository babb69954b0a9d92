import SchemaGo.Json.Decoder
import SchemaGo.Model.Index

/-! Reading models and indexes from JSON documents. -/

namespace SchemaGo.Model

open Json (Decoder Raw)
open Json.Decoder (choice field list optional record string)

def TypeTag.decoder : Decoder TypeTag :=
  choice TypeTag.ofName?

/-- An array of tags is a mixed type, whatever the number of its tags. -/
def ModelType.decoder : Decoder ModelType
  | room, .array items => (list TypeTag.decoder room (.array items)).map (.mixed <| .ofList ·)
  | room, r => (TypeTag.decoder room r).map .single

namespace ModelNode

/-- The fields of a model in the order of their array form. -/
def fieldNames : List String :=
  ["$id", "type", "properties", "required", "additionalProperties", "patternProperties", "items",
    "tupleItems", "variants", "$ref", "enum"]

/-- A model from its fields, where `node` reads a nested model, `nodes` a list and `entries` an object
of them. -/
def ofFields (room : Nat) (fields : List (Option Raw)) (node : Raw → Option ModelNode)
    (nodes : Raw → Option (List ModelNode)) (entries : Raw → Option (List (String × ModelNode))) :
    Option ModelNode := do
  return {
    id := ← field fields 0 none (optional string room)
    type := ← field fields 1 none (optional ModelType.decoder room)
    properties := ← field fields 2 [] entries
    required := .ofList (← field fields 3 [] (list string room))
    additionalProperties := ← field fields 4 none (optional (fun _ => node) room)
    patternProperties := ← field fields 5 [] entries
    items := ← field fields 6 none (optional (fun _ => node) room)
    tupleItems := ← field fields 7 [] nodes
    variants := ← field fields 8 [] nodes
    reference := ← field fields 9 none (optional string room)
    enumValues := ← field fields 10 none (optional (list Raw.value?) room) }

mutual

def decoder : Decoder ModelNode
  | 0, _ => none
  | room + 1, r => do
    let (_, fields) ← record fieldNames (room + 1) r
    ofFields room fields (decoder room) (listDecoder room) (entriesDecoder room)

def listDecoder : Decoder (List ModelNode)
  | room + 1, .array items => items.mapM (decoder room)
  | _, _ => none

/-- An object with any keys; of a repeated key the first position and the last value count. -/
def entriesDecoder : Decoder (List (String × ModelNode))
  | room + 1, .object members => do
    let entries ← Raw.entries? members
    let values ← entries.mapM fun m => (decoder room m.2).map (m.1, ·)
    return Keyed.ofList values
  | _, _ => none

end

end ModelNode

def Index.decoder : Decoder Index := fun room r => do
  let (room, fields) ← record ["models"] room r
  return .ofEntries (← field fields 0 [] (ModelNode.entriesDecoder room))

end SchemaGo.Model
