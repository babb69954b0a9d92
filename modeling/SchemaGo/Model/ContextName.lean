import SchemaGo.Model.Index

/-! Names for anonymous nested models, after the place where they are used. The name of a node is its
context and its position joined by an underscore. The context is the nearest named ancestor, extended
by every anonymous node in between. A name that is taken gets the least number from 2 on that makes
it free. -/

namespace SchemaGo.Model

/-- The first of `base` with the numbers from `n` on that is not taken, after at most `fuel` tries. -/
def numberedName (taken : List String) (base : String) : Nat → Nat → String
  | 0, n => base ++ toString n
  | fuel + 1, n =>
    if base ++ toString n ∈ taken then numberedName taken base fuel (n + 1)
    else base ++ toString n

/-- `base`, with a number if it is taken. Among one more candidates than taken names one is free. -/
def freeName (taken : List String) (base : String) : String :=
  if base ∈ taken then numberedName taken base taken.length 2 else base

namespace ModelNode

/-- The name of the node at `place`, a new one if it has none and needs a declaration, and the names
taken then. -/
def claimName (place : String) (n : ModelNode) (taken : List String) : Option String × List String :=
  if n.id.isNone && n.needsDeclaration then
    let name := freeName taken place
    (some name, name :: taken)
  else (n.id, taken)

mutual

/-- Names the nodes below a node whose context is `context`. -/
def nameBelow (context : String) (n : ModelNode) (taken : List String) : ModelNode × List String :=
  match n with
  | ⟨id, type, properties, required, additional, patterns, items, tuple, variants, reference, values⟩ =>
    let (properties, taken) := nameEntries .property context properties taken
    let (additional, taken) := nameOption .additionalProperties context additional taken
    let (patterns, taken) := nameEntries .patternProperty context patterns taken
    let (items, taken) := nameOption .item context items taken
    let (tuple, taken) := nameList .tupleItem context 0 tuple taken
    let (variants, taken) := nameList .variant context 0 variants taken
    (⟨id, type, properties, required, additional, patterns, items, tuple, variants, reference, values⟩,
      taken)
termination_by structural n

def nameEntries (position : String → Position) (context : String) (l : List (String × ModelNode))
    (taken : List String) : List (String × ModelNode) × List String :=
  match l with
  | [] => ([], taken)
  | (key, n) :: r =>
    let place := context ++ "_" ++ (position key).segment
    let (id, taken) := claimName place n taken
    let (m, taken) := nameBelow (id.getD place) n taken
    let (r, taken) := nameEntries position context r taken
    ((key, { m with id }) :: r, taken)
termination_by structural l

def nameOption (position : Position) (context : String) (o : Option ModelNode)
    (taken : List String) : Option ModelNode × List String :=
  match o with
  | none => (none, taken)
  | some n =>
    let place := context ++ "_" ++ position.segment
    let (id, taken) := claimName place n taken
    let (m, taken) := nameBelow (id.getD place) n taken
    (some { m with id }, taken)
termination_by structural o

def nameList (position : Nat → Position) (context : String) (i : Nat) (l : List ModelNode)
    (taken : List String) : List ModelNode × List String :=
  match l with
  | [] => ([], taken)
  | n :: r =>
    let place := context ++ "_" ++ (position i).segment
    let (id, taken) := claimName place n taken
    let (m, taken) := nameBelow (id.getD place) n taken
    let (r, taken) := nameList position context (i + 1) r taken
    ({ m with id } :: r, taken)
termination_by structural l

end

/-- Names the nodes below a named model. An anonymous model gives no context, so it is left as it is. -/
def nameNested (m : ModelNode) (taken : List String) : ModelNode × List String :=
  match m.id with
  | some id => nameBelow id m (id :: taken)
  | none => (m, taken)

end ModelNode

namespace Index

/-- Names the models of a list of entries, one after the other. -/
def nameModels : List (String × ModelNode) → List String → List (String × ModelNode)
  | [], _ => []
  | (key, m) :: r, taken =>
    let (m, taken) := m.nameNested taken
    (key, m) :: nameModels r taken

theorem keys_nameModels (l : List (String × ModelNode)) (taken : List String) :
    Keyed.keys (nameModels l taken) = Keyed.keys l := by
  induction l generalizing taken with
  | nil => rfl
  | cons p r ih =>
    have h := ih (p.2.nameNested taken).2
    simp only [Keyed.keys] at h
    simp [nameModels, Keyed.keys, h]

/-- The index with every anonymous nested struct and enum below a named entry named. -/
def withContextNames (x : Index) : Index where
  entries := nameModels x.entries x.ids
  distinct := by
    rw [Keyed.Distinct, keys_nameModels]
    exact x.distinct

/-- A model with its nested structs and enums named, no name of the index being used again. -/
def nameNested (x : Index) (m : ModelNode) : ModelNode :=
  (m.nameNested x.ids).1

end Index

end SchemaGo.Model
