import SchemaGo.Model.Node

/-! The index of the declared models of a document. Entries keep the order of insertion, which is the
order of generation. An entry's key need not be the name of its model. -/

namespace SchemaGo.Model

structure Index where
  entries : List (String × ModelNode)
  distinct : Keyed.Distinct entries

namespace Index

def empty : Index :=
  ⟨[], .nil⟩

instance : Inhabited Index := ⟨empty⟩

def ofEntries (l : List (String × ModelNode)) : Index :=
  ⟨Keyed.ofList l, Keyed.distinct_ofList l⟩

def keys (x : Index) : List String :=
  Keyed.keys x.entries

def models (x : Index) : List ModelNode :=
  x.entries.map (·.2)

def get? (x : Index) (key : String) : Option ModelNode :=
  Keyed.get? x.entries key

def size (x : Index) : Nat :=
  x.entries.length

def isEmpty (x : Index) : Bool :=
  x.entries.isEmpty

/-- Puts a model under its own name; an anonymous model is not put anywhere. -/
def insert? (x : Index) (m : ModelNode) : Option Index :=
  m.id.map fun id => ⟨Keyed.put x.entries id m, x.distinct.put id m⟩

/-- The entry that a node refers to. -/
def resolve? (x : Index) (n : ModelNode) : Option ModelNode :=
  n.reference.bind x.get?

/-- The names in all entries and below them. -/
def ids (x : Index) : List String :=
  x.models.flatMap ModelNode.ids

end Index

end SchemaGo.Model
