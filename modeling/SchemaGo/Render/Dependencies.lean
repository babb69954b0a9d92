/-! The imports that a rendered text needs, each once and in the order of first mention. -/

namespace SchemaGo.Render

structure Dependencies where
  toList : List String := []
  deriving DecidableEq, Inhabited

namespace Dependencies

def contains (d : Dependencies) (name : String) : Bool :=
  name ∈ d.toList

def isEmpty (d : Dependencies) : Bool :=
  d.toList.isEmpty

def size (d : Dependencies) : Nat :=
  d.toList.length

def add (d : Dependencies) (name : String) : Dependencies :=
  if d.contains name then d else ⟨d.toList ++ [name]⟩

end Dependencies

/-- What the hooks of a generator may do besides failing: record dependencies. -/
abbrev Recording := StateM Dependencies

/-- Records a dependency and tells whether it is new. -/
def record (name : String) : Recording Bool :=
  modifyGet fun d => (!d.contains name, d.add name)

end SchemaGo.Render
