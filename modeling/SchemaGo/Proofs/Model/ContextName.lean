import Mathlib.Data.List.Forall2
import Mathlib.Data.List.Nodup
import Std.Data.String.ToNat
import SchemaGo.Model.ContextName
import SchemaGo.Proofs.Model.Tree

/-! Naming by context, described over the nodes of a tree in the order of the walk. One step gives a
node a name that is not taken, or leaves the node as it is; a whole naming is a run of such steps, and
what it claims is what it adds to the taken names. Main statement: naming an index changes nothing but
the names of the anonymous nodes below named entries that need a declaration, and the new names are
distinct and new. -/

namespace SchemaGo.Model

/-! ### Free names -/

theorem numberedName_taken {taken : List String} {base : String} {fuel n : Nat}
    (h : numberedName taken base fuel n ∈ taken) (k : Nat) (hk : k ≤ fuel) :
    base ++ toString (n + k) ∈ taken := by
  induction fuel generalizing n k with
  | zero =>
    obtain rfl : k = 0 := by omega
    exact h
  | succ fuel ih =>
    simp only [numberedName] at h
    split at h
    · next hn =>
      cases k with
      | zero => exact hn
      | succ k =>
        rw [show n + (k + 1) = n + 1 + k by omega]
        exact ih h k (by omega)
    · next hn => exact absurd h hn

theorem numbered_injective (base : String) (n : Nat) :
    Function.Injective fun k => base ++ toString (n + k) := by
  intro i j h
  have := Nat.repr_injective ((String.append_right_inj base).1 h)
  omega

/-- Among one more candidates than taken names one is free. -/
theorem freeName_not_mem (taken : List String) (base : String) : freeName taken base ∉ taken := by
  unfold freeName
  split
  · intro h
    have hsub : (List.range (taken.length + 1)).map (fun k => base ++ toString (2 + k)) ⊆ taken := by
      intro name hname
      obtain ⟨k, hk, rfl⟩ := List.mem_map.1 hname
      exact numberedName_taken h k (by have := List.mem_range.1 hk; omega)
    have hnodup := (List.nodup_range (n := taken.length + 1)).map (numbered_injective base 2)
    have := hnodup.length_le_of_subset hsub
    simp only [List.length_map, List.length_range] at this
    omega
  · assumption

namespace ModelNode

/-! ### The walk over positions -/

/-- Names a node at `place` and the nodes below it. -/
def nameChild (place : String) (n : ModelNode) (taken : List String) : ModelNode × List String :=
  let named := claimName place n taken
  let below := nameBelow (named.1.getD place) n named.2
  ({ below.1 with id := named.1 }, below.2)

/-- Names the children at their positions in a node whose context is `context`. -/
def nameChildren (context : String) : List (Position × ModelNode) → List String →
    List ModelNode × List String
  | [], taken => ([], taken)
  | (position, n) :: r, taken =>
    let child := nameChild (context ++ "_" ++ position.segment) n taken
    let rest := nameChildren context r child.2
    (child.1 :: rest.1, rest.2)

theorem nameChildren_append (context : String) (l r : List (Position × ModelNode))
    (taken : List String) :
    nameChildren context (l ++ r) taken =
      ((nameChildren context l taken).1
          ++ (nameChildren context r (nameChildren context l taken).2).1,
        (nameChildren context r (nameChildren context l taken).2).2) := by
  induction l generalizing taken with
  | nil => rfl
  | cons p l ih => simp [nameChildren, ih]

theorem nameEntries_eq (position : String → Position) (context : String)
    (l : List (String × ModelNode)) (taken : List String) :
    nameChildren context (l.map fun (k, c) => (position k, c)) taken =
      ((nameEntries position context l taken).1.map (·.2),
        (nameEntries position context l taken).2) := by
  induction l generalizing taken with
  | nil => rfl
  | cons p r ih => simp [nameChildren, nameEntries, nameChild, ih]

theorem nameOption_eq (position : Position) (context : String) (o : Option ModelNode)
    (taken : List String) :
    nameChildren context (o.toList.map (position, ·)) taken =
      ((nameOption position context o taken).1.toList, (nameOption position context o taken).2) := by
  cases o <;> rfl

theorem nameList_eq (position : Nat → Position) (context : String) (i : Nat) (l : List ModelNode)
    (taken : List String) :
    nameChildren context ((l.zipIdx i).map fun (c, i) => (position i, c)) taken =
      nameList position context i l taken := by
  induction l generalizing i taken with
  | nil => rfl
  | cons n r ih => simp [nameChildren, nameList, nameChild, ih]

/-- The walk below a node is the walk over its children in the order of positions. -/
theorem nameChildren_positions (context : String) (n : ModelNode) (taken : List String) :
    nameChildren context n.positions taken =
      ((nameBelow context n taken).1.children, (nameBelow context n taken).2) := by
  obtain ⟨id, type, properties, required, additional, patterns, items, tuple, variants, reference,
    values⟩ := n
  simp only [positions, nameChildren_append, nameEntries_eq, nameOption_eq, nameList_eq, nameBelow,
    children_eq]

@[simp] theorem id_nameBelow (context : String) (n : ModelNode) (taken : List String) :
    (nameBelow context n taken).1.id = n.id := by
  cases n; rfl

mutual

theorem unnamed_nameBelow (context : String) (n : ModelNode) (taken : List String) :
    (nameBelow context n taken).1.unnamed = n.unnamed := by
  obtain ⟨id, type, properties, required, additional, patterns, items, tuple, variants, reference,
    values⟩ := n
  simp only [nameBelow, unnamed, mk.injEq, true_and]
  exact ⟨unnamed_nameEntries .property context properties _,
    unnamed_nameOption .additionalProperties context additional _,
    unnamed_nameEntries .patternProperty context patterns _,
    unnamed_nameOption .item context items _,
    unnamed_nameList .tupleItem context 0 tuple _,
    unnamed_nameList .variant context 0 variants _, trivial⟩

theorem unnamed_nameEntries (position : String → Position) (context : String)
    (l : List (String × ModelNode)) (taken : List String) :
    unnamedEntries (nameEntries position context l taken).1 = unnamedEntries l := by
  match l with
  | [] => rfl
  | (key, n) :: r =>
    simp only [nameEntries, unnamedEntries, unnamed_setId]
    rw [unnamed_nameBelow _ n, unnamed_nameEntries _ _ r]

theorem unnamed_nameOption (position : Position) (context : String) (o : Option ModelNode)
    (taken : List String) :
    unnamedOption (nameOption position context o taken).1 = unnamedOption o := by
  match o with
  | none => rfl
  | some n =>
    simp only [nameOption, unnamedOption, unnamed_setId]
    rw [unnamed_nameBelow _ n]

theorem unnamed_nameList (position : Nat → Position) (context : String) (i : Nat)
    (l : List ModelNode) (taken : List String) :
    unnamedList (nameList position context i l taken).1 = unnamedList l := by
  match l with
  | [] => rfl
  | n :: r =>
    simp only [nameList, unnamedList, unnamed_setId]
    rw [unnamed_nameBelow _ n, unnamed_nameList _ _ _ r]

end

/-! ### Runs -/

/-- A run of the naming walk over nodes: the names taken at its start, the nodes before and after it,
and the names taken at its end. -/
inductive NamingRun : List String → List ModelNode → List ModelNode → List String → Prop
  | done (taken : List String) : NamingRun taken [] [] taken
  | claim {taken taken' : List String} {n m : ModelNode} {l l' : List ModelNode} {name : String}
      (anonymous : n.id = none) (needs : n.needsDeclaration = true) (free : name ∉ taken)
      (named : m.id = some name) (rest : NamingRun (name :: taken) l l' taken') :
      NamingRun taken (n :: l) (m :: l') taken'
  | keep {taken taken' : List String} {n m : ModelNode} {l l' : List ModelNode}
      (settled : n.id = none → n.needsDeclaration = false) (same : m.id = n.id)
      (rest : NamingRun taken l l' taken') : NamingRun taken (n :: l) (m :: l') taken'

theorem NamingRun.append {t t' t'' : List String} {l l' r r' : List ModelNode}
    (h : NamingRun t l l' t') (k : NamingRun t' r r' t'') :
    NamingRun t (l ++ r) (l' ++ r') t'' := by
  induction h with
  | done taken => exact k
  | claim anonymous needs free named _ ih => exact .claim anonymous needs free named (ih k)
  | keep settled same _ ih => exact .keep settled same (ih k)

/-- The step of the walk at one node: what `claimName` gives, in front of a run over the rest. -/
theorem NamingRun.ofClaim {place : String} {n m : ModelNode} {taken taken' : List String}
    {l l' : List ModelNode} (hm : m.id = (claimName place n taken).1)
    (rest : NamingRun (claimName place n taken).2 l l' taken') :
    NamingRun taken (n :: l) (m :: l') taken' := by
  unfold claimName at hm rest
  split at hm
  · next h =>
    rw [if_pos h] at rest
    obtain ⟨anonymous, needs⟩ := Bool.and_eq_true_iff.1 h
    exact .claim (Option.isNone_iff_eq_none.1 anonymous) needs (freeName_not_mem taken place) hm rest
  · next h =>
    rw [if_neg h] at rest
    refine .keep (fun anonymous => ?_) hm rest
    simpa [anonymous] using h

theorem namingRun_nameChildren (context : String) (l : List (Position × ModelNode))
    (taken : List String)
    (ih : ∀ p ∈ l, ∀ context taken, NamingRun taken p.2.descendants
      (nameBelow context p.2 taken).1.descendants (nameBelow context p.2 taken).2) :
    NamingRun taken ((l.map (·.2)).flatMap fun c => c :: c.descendants)
      ((nameChildren context l taken).1.flatMap fun c => c :: c.descendants)
      (nameChildren context l taken).2 := by
  induction l generalizing taken with
  | nil => exact .done taken
  | cons p r ihr =>
    simp only [List.map_cons, List.flatMap_cons, nameChildren, nameChild, List.cons_append,
      descendants_setId]
    refine .ofClaim rfl ((ih p (by simp) _ _).append ?_)
    exact ihr _ fun q hq => ih q (by simp [hq])

/-- Naming the nodes below a node is a run over them in the order of the walk. -/
theorem namingRun_nameBelow (context : String) (n : ModelNode) (taken : List String) :
    NamingRun taken n.descendants (nameBelow context n taken).1.descendants
      (nameBelow context n taken).2 := by
  induction n using childInduction generalizing context taken with
  | step n ih =>
    have h := nameChildren_positions context n taken
    rw [descendants_eq n, descendants_eq (nameBelow context n taken).1, children]
    have hrun := namingRun_nameChildren context n.positions taken fun p hp =>
      ih p.2 (List.mem_map.2 ⟨p, hp, rfl⟩)
    rw [h] at hrun
    exact hrun

/-- The name of a node after a naming, against the node before it: where the naming comes to, an
anonymous node that needs a declaration has a name, and any other node has the name it had. -/
def NamedFrom (reached : Bool) (n m : ModelNode) : Prop :=
  if reached && n.id.isNone && n.needsDeclaration then m.id.isSome else m.id = n.id

/-- The names of the nodes of `after` whose counterparts in `before` are anonymous. -/
def gained (before after : List ModelNode) : List String :=
  (before.zip after).filterMap fun (n, m) => if n.id.isNone then m.id else none

theorem gained_append {l l' r r' : List ModelNode} (h : l.length = l'.length) :
    gained (l ++ r) (l' ++ r') = gained l l' ++ gained r r' := by
  simp [gained, List.zip_append h]

theorem gained_self (l : List ModelNode) : gained l l = [] := by
  induction l with
  | nil => rfl
  | cons n r ih =>
    cases h : n.id <;> simpa [gained, h] using ih

theorem eq_of_gained {l l' : List ModelNode} (h : (gained l l').Nodup) {n m c d : ModelNode}
    {name : String} (hnm : (n, m) ∈ l.zip l') (hcd : (c, d) ∈ l.zip l') (hn : n.id = none)
    (hc : c.id = none) (hm : m.id = some name) (hd : d.id = some name) : d = m := by
  have hpairs := List.pairwise_filterMap.1 h
  rw [List.pairwise_iff_getElem] at hpairs
  obtain ⟨i, hi, hi'⟩ := List.getElem_of_mem hnm
  obtain ⟨j, hj, hj'⟩ := List.getElem_of_mem hcd
  rcases Nat.lt_trichotomy i j with hij | rfl | hij
  · exact absurd rfl (hpairs i j hi hj hij name (by simp [hi', hn, hm]) name (by simp [hj', hc, hd]))
  · exact (Prod.mk.inj (hj'.symm.trans hi')).2
  · exact absurd rfl (hpairs j i hj hi hij name (by simp [hj', hc, hd]) name (by simp [hi', hn, hm]))

namespace NamingRun

variable {taken taken' : List String} {l l' : List ModelNode}

theorem namedFrom (h : NamingRun taken l l' taken') : List.Forall₂ (NamedFrom true) l l' := by
  induction h with
  | done taken => exact .nil
  | claim anonymous needs _ named _ ih =>
    exact .cons (by simp [NamedFrom, anonymous, needs, named]) ih
  | @keep _ _ n m _ _ settled same _ ih =>
    refine .cons ?_ ih
    cases hn : n.id with
    | none => simp [NamedFrom, settled hn, same]
    | some id => simp [NamedFrom, hn, same]

/-- What a run claims is what it adds to the taken names. -/
theorem taken_eq (h : NamingRun taken l l' taken') : taken' = (gained l l').reverse ++ taken := by
  induction h with
  | done taken => rfl
  | claim anonymous _ _ named _ ih => simp_all [gained]
  | @keep taken taken' n m l l' _ same _ ih =>
    cases hn : n.id <;> simp_all [gained]

theorem gained_fresh (h : NamingRun taken l l' taken') :
    (gained l l').Nodup ∧ ∀ a ∈ gained l l', a ∉ taken := by
  induction h with
  | done taken => simp [gained]
  | @claim taken taken' n m l l' name anonymous _ free named _ ih =>
    have hcons : gained (n :: l) (m :: l') = name :: gained l l' := by
      simp [gained, anonymous, named]
    obtain ⟨hnodup, hdisjoint⟩ := ih
    rw [hcons]
    refine ⟨List.nodup_cons.2 ⟨fun hname => ?_, hnodup⟩, ?_⟩
    · exact hdisjoint name hname (by simp)
    · intro a ha
      rcases List.mem_cons.1 ha with rfl | ha
      · exact free
      · exact fun ht => hdisjoint a ha (by simp [ht])
  | @keep taken taken' n m l l' _ same _ ih =>
    have hcons : gained (n :: l) (m :: l') = gained l l' := by
      cases hn : n.id <;> simp [gained, hn, same]
    rw [hcons]
    exact ih

end NamingRun

theorem namedFrom_self (l : List ModelNode) : List.Forall₂ (NamedFrom false) l l :=
  List.forall₂_same.2 fun n _ => by simp [NamedFrom]

/-- A model after a naming, against the model before it. -/
structure ModelNamed (n m : ModelNode) : Prop where
  id_eq : m.id = n.id
  unnamed_eq : m.unnamed = n.unnamed
  below : List.Forall₂ (NamedFrom n.id.isSome) n.descendants m.descendants

theorem modelNamed_nameNested (n : ModelNode) (taken : List String) :
    ModelNamed n (n.nameNested taken).1 := by
  cases h : n.id with
  | none =>
    simp only [nameNested, h]
    exact ⟨rfl, rfl, by simpa [h] using namedFrom_self n.descendants⟩
  | some id =>
    simp only [nameNested, h]
    exact ⟨id_nameBelow _ _ _, unnamed_nameBelow _ _ _,
      by simpa [h] using (namingRun_nameBelow id n (id :: taken)).namedFrom⟩

/-- A node after a naming has what it had before, and may have a name more. -/
structure NodeKept (n m : ModelNode) : Prop where
  unnamed_eq : m.unnamed = n.unnamed
  id_eq : ∀ name, n.id = some name → m.id = some name

theorem NodeKept.kind_eq {n m : ModelNode} (h : NodeKept n m) : m.kind = n.kind := by
  rw [← kind_unnamed m, h.unnamed_eq, kind_unnamed]

theorem NodeKept.reference_eq {n m : ModelNode} (h : NodeKept n m) : m.reference = n.reference := by
  rw [← reference_unnamed m, h.unnamed_eq, reference_unnamed]

theorem ModelNamed.nodes {n m : ModelNode} (h : ModelNamed n m) :
    List.Forall₂ NodeKept (n :: n.descendants) (m :: m.descendants) := by
  refine .cons ⟨h.unnamed_eq, fun name hn => h.id_eq.trans hn⟩ ?_
  have htrees : List.Forall₂ (fun c d : ModelNode => d.unnamed = c.unnamed) n.descendants
      m.descendants := by
    have hmap : m.descendants.map unnamed = n.descendants.map unnamed := by
      rw [← descendants_unnamed, h.unnamed_eq, descendants_unnamed]
    rw [← List.forall₂_eq_eq_eq, List.forall₂_map_left_iff, List.forall₂_map_right_iff] at hmap
    exact hmap.flip
  refine List.Forall₂.mp (fun c d hnamed htree => ⟨htree, fun name hc => ?_⟩) h.below htrees
  simpa [NamedFrom, hc] using hnamed

/-- What naming a model adds to the taken names: its own name and the new ones, which are distinct
and were free. -/
theorem nameNested_fresh (n : ModelNode) (taken : List String) :
    let names := gained (n :: n.descendants) ((n.nameNested taken).1 :: (n.nameNested taken).1.descendants)
    names.Nodup ∧ (∀ a ∈ names, a ∉ taken) ∧
      (n.nameNested taken).2 = names.reverse ++ n.id.toList ++ taken := by
  cases h : n.id with
  | none => simp [nameNested, h, gained_self]
  | some id =>
    have hrun := namingRun_nameBelow id n (id :: taken)
    obtain ⟨hnodup, hfree⟩ := hrun.gained_fresh
    have htaken := hrun.taken_eq
    have hcons : ∀ m l, gained (n :: n.descendants) (m :: l) = gained n.descendants l := by
      simp [gained, h]
    simp only [nameNested, h, hcons]
    refine ⟨hnodup, fun a ha ht => hfree a ha (by simp [ht]), by simpa using htaken⟩

end ModelNode

/-! ### Indexes -/

namespace Index

open ModelNode (ModelNamed NodeKept eq_of_gained gained)

/-- The nodes of a list of entries in the order of the walk. -/
def entryNodes (l : List (String × ModelNode)) : List ModelNode :=
  l.flatMap fun p => p.2 :: p.2.descendants

theorem modelNamed_nameModels (l : List (String × ModelNode)) (taken : List String) :
    List.Forall₂ (fun p q => q.1 = p.1 ∧ ModelNamed p.2 q.2) l (nameModels l taken) := by
  induction l generalizing taken with
  | nil => exact .nil
  | cons p r ih => exact .cons ⟨rfl, ModelNode.modelNamed_nameNested p.2 taken⟩ (ih _)

/-- The names that a naming gives to the nodes of some entries are distinct and were free. The names
claimed for one entry are taken when the next one is named. -/
theorem nameModels_fresh (l : List (String × ModelNode)) (taken : List String) :
    (gained (entryNodes l) (entryNodes (nameModels l taken))).Nodup ∧
      ∀ a ∈ gained (entryNodes l) (entryNodes (nameModels l taken)), a ∉ taken := by
  induction l generalizing taken with
  | nil => simp [entryNodes, nameModels, gained]
  | cons p r ih =>
    obtain ⟨key, n⟩ := p
    have hlength := (ModelNode.modelNamed_nameNested n taken).below.length_eq
    obtain ⟨hnodup, hfree, htaken⟩ := ModelNode.nameNested_fresh n taken
    obtain ⟨ihnodup, ihfree⟩ := ih (n.nameNested taken).2
    simp only [entryNodes, nameModels, List.flatMap_cons] at ihnodup ihfree ⊢
    rw [ModelNode.gained_append (by simp [hlength])]
    constructor
    · refine List.nodup_append.2 ⟨hnodup, ihnodup, fun a ha b hb hab => ?_⟩
      exact ihfree b hb (by rw [htaken]; simp [← hab, ha])
    · intro a ha
      rcases List.mem_append.1 ha with ha | ha
      · exact hfree a ha
      · exact fun ht => ihfree a ha (by rw [htaken]; simp [ht])

theorem nodes_eq (x : Index) : x.nodes = entryNodes x.entries := by
  simp [nodes, entryNodes, models, List.flatMap_map]

theorem entries_named (x : Index) :
    List.Forall₂ (fun p q => q.1 = p.1 ∧ ModelNamed p.2 q.2) x.entries x.withContextNames.entries :=
  modelNamed_nameModels x.entries x.ids

theorem nodes_kept (x : Index) : List.Forall₂ NodeKept x.nodes x.withContextNames.nodes := by
  simp only [nodes_eq]
  exact List.rel_flatMap x.entries_named fun _ _ h => h.2.nodes

theorem mem_entryNodes_zip {l l' : List (String × ModelNode)}
    (h : List.Forall₂ (fun p q => q.1 = p.1 ∧ ModelNamed p.2 q.2) l l') {p q : String × ModelNode}
    (hpq : (p, q) ∈ l.zip l') {n m : ModelNode} (hnm : (n, m) ∈ p.2.descendants.zip q.2.descendants) :
    (n, m) ∈ (entryNodes l).zip (entryNodes l') := by
  induction h with
  | nil => simp at hpq
  | @cons a b l l' hab _ ih =>
    simp only [entryNodes, List.flatMap_cons]
    rw [List.zip_append (by simpa using hab.2.below.length_eq), List.mem_append]
    simp only [List.zip_cons_cons, List.mem_cons, Prod.mk.injEq] at hpq ⊢
    rcases hpq with ⟨rfl, rfl⟩ | hpq
    · exact .inl (.inr hnm)
    · exact .inr (ih hpq)

theorem mem_nodes_zip {x : Index} {p q : String × ModelNode}
    (hpq : (p, q) ∈ x.entries.zip x.withContextNames.entries) {n m : ModelNode}
    (hnm : (n, m) ∈ p.2.descendants.zip q.2.descendants) :
    (n, m) ∈ x.nodes.zip x.withContextNames.nodes := by
  simp only [nodes_eq]
  exact mem_entryNodes_zip x.entries_named hpq hnm

theorem exists_zip_of_mem {α β : Type} {l : List α} {l' : List β} (h : l.length = l'.length) {b : β}
    (hb : b ∈ l') : ∃ a, (a, b) ∈ l.zip l' := by
  obtain ⟨i, hi, rfl⟩ := List.getElem_of_mem hb
  exact ⟨l[i], List.mem_iff_getElem.2 ⟨i, by rw [List.length_zip]; omega, by simp⟩⟩

/-- Every entry of the named index comes from one of the index. -/
theorem exists_entry_before {x : Index} {q : String × ModelNode}
    (hq : q ∈ x.withContextNames.entries) :
    ∃ p, (p, q) ∈ x.entries.zip x.withContextNames.entries :=
  exists_zip_of_mem x.entries_named.length_eq hq

/-- Every node of the named index comes from one of the index. -/
theorem exists_node_before {x : Index} {m : ModelNode} (hm : m ∈ x.withContextNames.nodes) :
    ∃ n, (n, m) ∈ x.nodes.zip x.withContextNames.nodes :=
  exists_zip_of_mem x.nodes_kept.length_eq hm

/-- Entries keep their names, so the name of an entry is no new one. -/
theorem id_mem_ids {x : Index} {m : ModelNode} {name : String} (hm : m ∈ x.withContextNames.models)
    (hname : m.id = some name) : name ∈ x.ids := by
  obtain ⟨q, hq, rfl⟩ := List.mem_map.1 hm
  obtain ⟨p, hpq⟩ := x.exists_entry_before hq
  have hid := (List.forall₂_zip x.entries_named hpq).2.id_eq
  have hp : p.2 ∈ x.models := List.mem_map.2 ⟨p, (List.of_mem_zip hpq).1, rfl⟩
  rw [ids_eq]
  exact List.mem_filterMap.2 ⟨p.2, mem_nodes.2 ⟨p.2, hp, .inl rfl⟩, hid.symm.trans hname⟩

@[simp] theorem keys_withContextNames (x : Index) : x.withContextNames.keys = x.keys :=
  keys_nameModels x.entries x.ids

theorem gained_fresh (x : Index) :
    (gained x.nodes x.withContextNames.nodes).Nodup ∧
      ∀ a ∈ gained x.nodes x.withContextNames.nodes, a ∉ x.ids := by
  simp only [nodes_eq]
  exact nameModels_fresh x.entries x.ids

/-- A new name stands at one node only. -/
theorem gained_unique {x : Index} {n m d : ModelNode} {name : String}
    (hpair : (n, m) ∈ x.nodes.zip x.withContextNames.nodes) (hn : n.id = none)
    (hm : m.id = some name) (hd : d ∈ x.withContextNames.nodes) (hname : d.id = some name) :
    d = m := by
  obtain ⟨hnodup, hfree⟩ := x.gained_fresh
  have hmem : name ∈ gained x.nodes x.withContextNames.nodes :=
    List.mem_filterMap.2 ⟨(n, m), hpair, by simp [hn, hm]⟩
  obtain ⟨c, hcd⟩ := x.exists_node_before hd
  cases hc : c.id with
  | none => exact eq_of_gained hnodup hpair hcd hn hc hm hname
  | some a =>
    -- a node that had a name keeps it, and no new name is an old one
    have := (List.forall₂_zip x.nodes_kept hcd).id_eq a hc
    obtain rfl : a = name := by simpa [hname] using this.symm
    have hold : a ∈ x.ids := by
      rw [ids_eq]
      exact List.mem_filterMap.2 ⟨c, (List.of_mem_zip hcd).1, hc⟩
    exact absurd hold (hfree a hmem)

/-- Naming an index keeps the keys, their order and the models without their names. An entry keeps its
name; below an entry with a name, the anonymous nodes that need a declaration get one, and all other
nodes keep theirs. No new name is given twice or occurs in the index that was named. -/
theorem withContextNames_exact (x : Index) :
    List.Forall₂ (fun p q => q.1 = p.1 ∧ ModelNamed p.2 q.2) x.entries x.withContextNames.entries ∧
      (gained x.nodes x.withContextNames.nodes).Nodup ∧
      ∀ a ∈ gained x.nodes x.withContextNames.nodes, a ∉ x.ids := by
  exact ⟨x.entries_named, x.gained_fresh⟩

end Index

end SchemaGo.Model
