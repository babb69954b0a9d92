import SchemaGo.Json.Value
import SchemaGo.Model.Type

/-! Nodes of a model tree. A node is a declared model, an anonymous nested one, or a reference to a
declared one. Its children stand at positions, and the order of positions is the order in which every
walk visits them. -/

namespace SchemaGo.Model

/-- How a model is rendered: with named fields, with named constants, or in place. -/
inductive ModelKind where
  | struct | enum | other
  deriving DecidableEq

def ModelKind.name : ModelKind → String
  | .struct => "struct"
  | .enum => "enum"
  | .other => "other"

structure ModelNode where
  /-- The name of a declared model. -/
  id : Option String := none
  type : Option ModelType := none
  /-- Declared fields, in output order. -/
  properties : List (String × ModelNode) := []
  required : OrderedSet String := .empty
  /-- The model of keys that are not declared. -/
  additionalProperties : Option ModelNode := none
  /-- The models of keys that match a pattern. -/
  patternProperties : List (String × ModelNode) := []
  /-- The model of array elements. -/
  items : Option ModelNode := none
  tupleItems : List ModelNode := []
  /-- The alternatives of a union. -/
  variants : List ModelNode := []
  /-- The name of the model that the node stands for. -/
  reference : Option String := none
  enumValues : Option (List Json.Value) := none

instance : Inhabited ModelNode := ⟨{}⟩

/-- Where a child stands in its parent. -/
inductive Position where
  | property (key : String)
  | additionalProperties
  | patternProperty (pattern : String)
  | item
  | tupleItem (index : Nat)
  | variant (index : Nat)
  deriving DecidableEq

/-- The name of the field that collects undeclared keys. -/
def additionalName : String := "additionalProperties"

/-- The name of the field that collects the keys that match `pattern`. -/
def patternName (pattern : String) : String :=
  pattern ++ "PatternProperties"

/-- The part of a context name that stands for a position. -/
def Position.segment : Position → String
  | .property key => key
  | .additionalProperties => additionalName
  | .patternProperty pattern => patternName pattern
  | .item => "item"
  | .tupleItem i => "item" ++ toString i
  | .variant i => "variant" ++ toString i

namespace ModelNode

def isObject (n : ModelNode) : Bool :=
  n.type.any (·.contains .object)

/-- Enum values decide before the type, so a node with both values and properties is an enum. -/
def kind (n : ModelNode) : ModelKind :=
  if n.enumValues.isSome then .enum
  else if n.isObject then .struct
  else .other

/-- Whether an anonymous occurrence needs a declaration of its own. Objects without properties are
written in place as dictionaries. -/
def needsDeclaration (n : ModelNode) : Bool :=
  match n.kind with
  | .enum => true
  | .struct => !n.properties.isEmpty
  | .other => false

def isRequired (n : ModelNode) (field : String) : Bool :=
  n.required.contains field

def singleType? (n : ModelNode) : Option TypeTag :=
  n.type.bind ModelType.single?

/-- The children with their positions. -/
def positions (n : ModelNode) : List (Position × ModelNode) :=
  n.properties.map (fun (k, c) => (.property k, c))
    ++ n.additionalProperties.toList.map (.additionalProperties, ·)
    ++ n.patternProperties.map (fun (k, c) => (.patternProperty k, c))
    ++ n.items.toList.map (.item, ·)
    ++ n.tupleItems.zipIdx.map (fun (c, i) => (.tupleItem i, c))
    ++ n.variants.zipIdx.map (fun (c, i) => (.variant i, c))

def children (n : ModelNode) : List ModelNode :=
  n.positions.map (·.2)

mutual

/-- All nodes below a node, each in front of those below it. -/
def descendants : ModelNode → List ModelNode
  | ⟨_, _, properties, _, additional, patterns, items, tuple, variants, _, _⟩ =>
    entryDescendants properties ++ optionDescendants additional ++ entryDescendants patterns
      ++ optionDescendants items ++ listDescendants tuple ++ listDescendants variants

def entryDescendants : List (String × ModelNode) → List ModelNode
  | [] => []
  | (_, n) :: r => n :: descendants n ++ entryDescendants r

def optionDescendants : Option ModelNode → List ModelNode
  | none => []
  | some n => n :: descendants n

def listDescendants : List ModelNode → List ModelNode
  | [] => []
  | n :: r => n :: descendants n ++ listDescendants r

end

/-- The names in a node and below it. -/
def ids (n : ModelNode) : List String :=
  (n :: n.descendants).filterMap (·.id)

end ModelNode

end SchemaGo.Model
