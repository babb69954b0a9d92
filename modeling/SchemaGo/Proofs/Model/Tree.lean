import SchemaGo.Model.Index

/-! Model trees as a recursion over children. A property of every node follows from the step from the
children of a node to the node, whatever their positions. `unnamed` forgets all names of a tree, so two
trees with the same `unnamed` differ in names only. -/

namespace SchemaGo.Model

namespace ModelNode

/-! ### Children -/

theorem children_eq (n : ModelNode) :
    n.children = n.properties.map (·.2) ++ n.additionalProperties.toList
      ++ n.patternProperties.map (·.2) ++ n.items.toList ++ n.tupleItems ++ n.variants := by
  simp [children, positions, Function.comp_def, List.zipIdx_map_fst]

theorem entryDescendants_eq (l : List (String × ModelNode)) :
    entryDescendants l = (l.map (·.2)).flatMap fun c => c :: c.descendants := by
  induction l with
  | nil => rfl
  | cons p r ih => simp [entryDescendants, ih]

theorem optionDescendants_eq (o : Option ModelNode) :
    optionDescendants o = o.toList.flatMap fun c => c :: c.descendants := by
  cases o <;> simp [optionDescendants]

theorem listDescendants_eq (l : List ModelNode) :
    listDescendants l = l.flatMap fun c => c :: c.descendants := by
  induction l with
  | nil => rfl
  | cons n r ih => simp [listDescendants, ih]

/-- The nodes below a node are its children, each in front of the nodes below it. -/
theorem descendants_eq (n : ModelNode) :
    n.descendants = n.children.flatMap fun c => c :: c.descendants := by
  cases n
  simp [descendants, children_eq, entryDescendants_eq, optionDescendants_eq, listDescendants_eq]

theorem sizeOf_lt_of_mem_children {n c : ModelNode} (h : c ∈ n.children) : sizeOf c < sizeOf n := by
  obtain ⟨id, type, properties, required, additional, patterns, items, tuple, variants, reference,
    values⟩ := n
  simp only [children_eq, List.mem_append, List.mem_map, Option.mem_toList] at h
  simp only [mk.sizeOf_spec]
  have hentry : ∀ l : List (String × ModelNode), (∃ p ∈ l, p.2 = c) → sizeOf c < sizeOf l := by
    rintro l ⟨⟨k, d⟩, hp, rfl⟩
    have := List.sizeOf_lt_of_mem hp
    simp only [Prod.mk.sizeOf_spec] at this ⊢
    omega
  have hoption : ∀ o : Option ModelNode, o = some c → sizeOf c < sizeOf o := by
    rintro o rfl
    simp
  rcases h with ((((h | h) | h) | h) | h) | h
  · have := hentry _ h; omega
  · have := hoption _ h; omega
  · have := hentry _ h; omega
  · have := hoption _ h; omega
  · have := List.sizeOf_lt_of_mem h; omega
  · have := List.sizeOf_lt_of_mem h; omega

/-- Induction over a tree: a node has a property if all of its children have it. -/
@[elab_as_elim]
theorem childInduction {P : ModelNode → Prop} (step : ∀ n, (∀ c ∈ n.children, P c) → P n)
    (n : ModelNode) : P n :=
  step n fun c hc =>
    have := sizeOf_lt_of_mem_children hc
    childInduction step c
termination_by sizeOf n

theorem mem_descendants {n d : ModelNode} :
    d ∈ n.descendants ↔ ∃ c ∈ n.children, d = c ∨ d ∈ c.descendants := by
  simp [descendants_eq n]

theorem mem_descendants_of_child {n c : ModelNode} (h : c ∈ n.children) : c ∈ n.descendants :=
  mem_descendants.2 ⟨c, h, .inl rfl⟩

theorem mem_descendants_trans {n d e : ModelNode} (hd : d ∈ n.descendants) (he : e ∈ d.descendants) :
    e ∈ n.descendants := by
  induction n using childInduction with
  | step n ih =>
    obtain ⟨c, hc, rfl | hd⟩ := mem_descendants.1 hd
    · exact mem_descendants.2 ⟨d, hc, .inr he⟩
    · exact mem_descendants.2 ⟨c, hc, .inr (ih c hc hd)⟩

theorem kind_ne_other {n : ModelNode} (h : n.needsDeclaration = true) : n.kind ≠ .other := by
  intro hkind
  simp [needsDeclaration, hkind] at h

/-! ### Trees without names -/

mutual

/-- The tree with the name of every node left out. -/
def unnamed : ModelNode → ModelNode
  | ⟨_, type, properties, required, additional, patterns, items, tuple, variants, reference, values⟩ =>
    ⟨none, type, unnamedEntries properties, required, unnamedOption additional,
      unnamedEntries patterns, unnamedOption items, unnamedList tuple, unnamedList variants, reference,
      values⟩

def unnamedEntries : List (String × ModelNode) → List (String × ModelNode)
  | [] => []
  | (k, n) :: r => (k, unnamed n) :: unnamedEntries r

def unnamedOption : Option ModelNode → Option ModelNode
  | none => none
  | some n => some (unnamed n)

def unnamedList : List ModelNode → List ModelNode
  | [] => []
  | n :: r => unnamed n :: unnamedList r

end

theorem unnamedEntries_eq (l : List (String × ModelNode)) :
    unnamedEntries l = l.map fun p => (p.1, p.2.unnamed) := by
  induction l with
  | nil => rfl
  | cons p r ih => simp [unnamedEntries, ih]

theorem unnamedOption_eq (o : Option ModelNode) : unnamedOption o = o.map unnamed := by
  cases o <;> rfl

theorem unnamedList_eq (l : List ModelNode) : unnamedList l = l.map unnamed := by
  induction l with
  | nil => rfl
  | cons n r ih => simp [unnamedList, ih]

theorem unnamed_eq (n : ModelNode) :
    n.unnamed = ⟨none, n.type, n.properties.map fun p => (p.1, p.2.unnamed), n.required,
      n.additionalProperties.map unnamed, n.patternProperties.map fun p => (p.1, p.2.unnamed),
      n.items.map unnamed, n.tupleItems.map unnamed, n.variants.map unnamed, n.reference,
      n.enumValues⟩ := by
  cases n
  simp [unnamed, unnamedEntries_eq, unnamedOption_eq, unnamedList_eq]

theorem descendants_setId (n : ModelNode) (id : Option String) :
    { n with id }.descendants = n.descendants := by
  cases n; rfl

theorem unnamed_setId (n : ModelNode) (id : Option String) : { n with id }.unnamed = n.unnamed := by
  cases n; rfl

@[simp] theorem id_unnamed (n : ModelNode) : n.unnamed.id = none := by
  cases n; rfl

@[simp] theorem reference_unnamed (n : ModelNode) : n.unnamed.reference = n.reference := by
  cases n; rfl

@[simp] theorem enumValues_unnamed (n : ModelNode) : n.unnamed.enumValues = n.enumValues := by
  cases n; rfl

@[simp] theorem type_unnamed (n : ModelNode) : n.unnamed.type = n.type := by
  cases n; rfl

@[simp] theorem required_unnamed (n : ModelNode) : n.unnamed.required = n.required := by
  cases n; rfl

@[simp] theorem kind_unnamed (n : ModelNode) : n.unnamed.kind = n.kind := by
  cases n; rfl

@[simp] theorem needsDeclaration_unnamed (n : ModelNode) :
    n.unnamed.needsDeclaration = n.needsDeclaration := by
  have h : n.unnamed.properties.isEmpty = n.properties.isEmpty := by simp [unnamed_eq n]
  simp only [needsDeclaration, kind_unnamed, h]

theorem children_unnamed (n : ModelNode) : n.unnamed.children = n.children.map unnamed := by
  rw [unnamed_eq]
  simp only [children_eq, List.map_append, List.map_map, Function.comp_def, Option.toList_map]

theorem descendants_unnamed (n : ModelNode) :
    n.unnamed.descendants = n.descendants.map unnamed := by
  induction n using childInduction with
  | step n ih =>
    rw [descendants_eq, descendants_eq n, children_unnamed, List.map_flatMap, List.flatMap_map]
    rw [List.flatMap_def, List.flatMap_def]
    congr 1
    exact List.map_congr_left fun c hc => by rw [ih c hc, List.map_cons]

end ModelNode

namespace Index

/-- All nodes of an index: each entry in front of the nodes below it. -/
def nodes (x : Index) : List ModelNode :=
  x.models.flatMap fun m => m :: m.descendants

theorem ids_eq (x : Index) : x.ids = x.nodes.filterMap (·.id) := by
  simp only [ids, nodes, List.filterMap_flatMap]
  rfl

theorem mem_nodes {x : Index} {n : ModelNode} :
    n ∈ x.nodes ↔ ∃ m ∈ x.models, n = m ∨ n ∈ m.descendants := by
  simp [nodes]

theorem mem_nodes_of_mem_descendants {x : Index} {n d : ModelNode} (hn : n ∈ x.nodes)
    (hd : d ∈ n.descendants) : d ∈ x.nodes := by
  obtain ⟨m, hm, rfl | h⟩ := mem_nodes.1 hn
  · exact mem_nodes.2 ⟨n, hm, .inr hd⟩
  · exact mem_nodes.2 ⟨m, hm, .inr (ModelNode.mem_descendants_trans h hd)⟩

end Index

end SchemaGo.Model
