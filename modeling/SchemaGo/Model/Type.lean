import SchemaGo.OrderedSet

/-! The type classification of a model: one tag, or a mixed set of tags. -/

namespace SchemaGo.Model

inductive TypeTag where
  | string | integer | number | boolean | object | array | tuple | union | reference | unconstrained
  deriving DecidableEq, Inhabited

namespace TypeTag

/-- The place of a tag in the order of tags. -/
def rank : TypeTag → Nat
  | .string => 0
  | .integer => 1
  | .number => 2
  | .boolean => 3
  | .object => 4
  | .array => 5
  | .tuple => 6
  | .union => 7
  | .reference => 8
  | .unconstrained => 9

instance : LT TypeTag := ⟨fun a b => a.rank < b.rank⟩

instance : DecidableLT TypeTag := fun a b => inferInstanceAs (Decidable (a.rank < b.rank))

instance : Trans (· < · : TypeTag → TypeTag → Prop) (· < · : TypeTag → TypeTag → Prop)
    (· < · : TypeTag → TypeTag → Prop) :=
  ⟨fun h₁ h₂ => Nat.lt_trans h₁ h₂⟩

def name : TypeTag → String
  | .string => "string"
  | .integer => "integer"
  | .number => "number"
  | .boolean => "boolean"
  | .object => "object"
  | .array => "array"
  | .tuple => "tuple"
  | .union => "union"
  | .reference => "reference"
  | .unconstrained => "unconstrained"

/-- All tags in their order. -/
def all : List TypeTag :=
  [.string, .integer, .number, .boolean, .object, .array, .tuple, .union, .reference, .unconstrained]

def ofName? (s : String) : Option TypeTag :=
  all.find? (·.name = s)

end TypeTag

inductive ModelType where
  | single (tag : TypeTag)
  | mixed (tags : OrderedSet TypeTag)

namespace ModelType

/-- The type of a collection of tags; one tag, however often, is a single type. -/
def ofTags (tags : List TypeTag) : ModelType :=
  let set := OrderedSet.ofList tags
  match set.toList with
  | [tag] => .single tag
  | _ => .mixed set

def single? : ModelType → Option TypeTag
  | .single tag => some tag
  | .mixed _ => none

def contains : ModelType → TypeTag → Bool
  | .single t, tag => t = tag
  | .mixed tags, tag => tags.contains tag

end ModelType

end SchemaGo.Model
