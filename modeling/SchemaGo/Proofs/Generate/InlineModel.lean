import SchemaGo.Proofs.Generate.Generator

/-! Models written inline, without a name of their own. Such a model is declared if it gets a name and
a reachable model has that name and the same content. This holds exactly below the entries that have a
name, and only if the name is not a key of the index: the naming keeps clear of the names in the index
but not of its keys, and the keys count as seen from the start. -/

namespace SchemaGo.Generate

open Model (Index ModelNode)

/-- The inline model `n` of an index, `m` in the named index, is generated under the name of `m`. -/
def InlineDeclared (x : Index) (n m : ModelNode) : Prop :=
  ∃ name d, m.id = some name ∧ d ∈ x.withContextNames.reachable ∧ d.id = some name ∧
    d.unnamed = n.unnamed ∧
    ∀ g : Generator, (g.render d x.withContextNames).map (outputModel d) ∈ g.generate x

section

variable {x : Index} {p q : String × ModelNode} {n m : ModelNode}

/-- An inline model gets a name exactly below an entry with a name. -/
theorem inline_named_iff (hentry : (p, q) ∈ x.entries.zip x.withContextNames.entries)
    (hnode : (n, m) ∈ p.2.descendants.zip q.2.descendants) (anonymous : n.id = none)
    (needs : n.needsDeclaration = true) : m.id.isSome ↔ p.2.id.isSome := by
  have hnamed := List.forall₂_zip (List.forall₂_zip x.entries_named hentry).2.below hnode
  cases h : p.2.id with
  | none => simp_all [ModelNode.NamedFrom]
  | some id => simp_all [ModelNode.NamedFrom]

/-- A new name is the name of a reachable model exactly if it is no key of the index. -/
theorem inline_reachable_iff {name : String}
    (hentry : (p, q) ∈ x.entries.zip x.withContextNames.entries)
    (hnode : (n, m) ∈ p.2.descendants.zip q.2.descendants) (anonymous : n.id = none)
    (needs : n.needsDeclaration = true) (hname : m.id = some name) :
    (∃ d ∈ x.withContextNames.reachable, d.id = some name) ↔ name ∉ x.keys := by
  have hpair := Index.mem_nodes_zip hentry hnode
  have hnew : name ∉ x.ids :=
    x.gained_fresh.2 name (List.mem_filterMap.2 ⟨(n, m), hpair, by simp [anonymous, hname]⟩)
  constructor
  · rintro ⟨d, hd, hid⟩
    rcases Index.mem_reachable hd with hmodel | ⟨-, -, id, hid', hkey⟩
    · exact absurd (Index.id_mem_ids hmodel hid) hnew
    · obtain rfl : id = name := by simpa [hid'] using hid
      simpa using hkey
  · intro hkey
    have hkind : m.kind ≠ .other := by
      rw [(List.forall₂_zip x.nodes_kept hpair).kind_eq]
      exact ModelNode.kind_ne_other needs
    have hmodel : q.2 ∈ x.withContextNames.models :=
      List.mem_map.2 ⟨q, (List.of_mem_zip hentry).2, rfl⟩
    rcases Index.reachable_complete hmodel (List.of_mem_zip hnode).2 hkind hname with hk | ⟨d, hd, -, hid⟩
    · exact absurd (by simpa using hk) hkey
    · exact ⟨d, hd, hid⟩

/-- An inline model is declared exactly if its entry has a name and its own new name is no key. -/
theorem inline_declared_iff (hentry : (p, q) ∈ x.entries.zip x.withContextNames.entries)
    (hnode : (n, m) ∈ p.2.descendants.zip q.2.descendants) (anonymous : n.id = none)
    (needs : n.needsDeclaration = true) :
    InlineDeclared x n m ↔ p.2.id.isSome ∧ ∀ name, m.id = some name → name ∉ x.keys := by
  constructor
  · rintro ⟨name, d, hname, hd, hid, -⟩
    refine ⟨(inline_named_iff hentry hnode anonymous needs).1 (by simp [hname]), ?_⟩
    intro a ha
    obtain rfl : name = a := by simpa [hname] using ha
    exact (inline_reachable_iff hentry hnode anonymous needs hname).1 ⟨d, hd, hid⟩
  · rintro ⟨hid, hkey⟩
    obtain ⟨name, hname⟩ :=
      Option.isSome_iff_exists.1 ((inline_named_iff hentry hnode anonymous needs).2 hid)
    obtain ⟨d, hd, hdname⟩ :=
      (inline_reachable_iff hentry hnode anonymous needs hname).2 (hkey name hname)
    have hpair := Index.mem_nodes_zip hentry hnode
    -- the reachable model of that name is the inline model, since the name stands at one node only
    obtain rfl : d = m :=
      Index.gained_unique hpair anonymous hname (Index.reachable_subset_nodes hd) hdname
    exact ⟨name, d, hname, hd, hdname, (List.forall₂_zip x.nodes_kept hpair).unnamed_eq,
      fun g => g.render_mem_generate hd⟩

/-- Below an entry with a name an inline model gets a name, and under a name that is no key it is
declared. -/
theorem inline_declared (hentry : (p, q) ∈ x.entries.zip x.withContextNames.entries)
    (hnode : (n, m) ∈ p.2.descendants.zip q.2.descendants) (anonymous : n.id = none)
    (needs : n.needsDeclaration = true) (named : p.2.id.isSome) :
    ∃ name, m.id = some name ∧ (name ∉ x.keys → InlineDeclared x n m) := by
  obtain ⟨name, hname⟩ :=
    Option.isSome_iff_exists.1 ((inline_named_iff hentry hnode anonymous needs).2 named)
  refine ⟨name, hname, fun hkey => ?_⟩
  refine (inline_declared_iff hentry hnode anonymous needs).2 ⟨named, fun a ha => ?_⟩
  obtain rfl : name = a := Option.some.inj (hname.symm.trans ha)
  exact hkey

end

/-! ### Documents with other keys than names -/

/-- An object with one text field. -/
def point : ModelNode where
  type := some (.single .object)
  properties := [("c", { type := some (.single .string) })]

/-- An object that holds a `point` under the key `b`. -/
def holder (id : Option String) : ModelNode where
  id := id
  type := some (.single .object)
  properties := [("b", point)]

/-- An entry whose key is not its name. -/
def keyedOtherwise : Index :=
  .ofEntries [("k", holder (some "a"))]

theorem inline_declared_keyedOtherwise :
    ∃ p q n m, (p, q) ∈ keyedOtherwise.entries.zip keyedOtherwise.withContextNames.entries ∧
      (n, m) ∈ p.2.descendants.zip q.2.descendants ∧ n.id = none ∧ n.needsDeclaration = true ∧
      m.id = some "a_b" ∧ InlineDeclared keyedOtherwise n m := by
  let entries := keyedOtherwise.entries.zip keyedOtherwise.withContextNames.entries
  let nodes := entries[0].1.2.descendants.zip entries[0].2.2.descendants
  have hentry : (entries[0].1, entries[0].2) ∈ entries := List.getElem_mem (by decide)
  have hnode : (nodes[0].1, nodes[0].2) ∈ nodes := List.getElem_mem (by decide)
  have hname : nodes[0].2.id = some "a_b" := by decide
  obtain ⟨name, hid, hdeclared⟩ := inline_declared hentry hnode rfl rfl rfl
  obtain rfl : "a_b" = name := Option.some.inj (hname.symm.trans hid)
  exact ⟨_, _, _, _, hentry, hnode, rfl, rfl, hname, hdeclared (by decide)⟩

/-- Every inline model that stands below some model with a name is declared. -/
def AllInlineDeclared (x : Index) : Prop :=
  ∀ p q n m, (p, q) ∈ x.entries.zip x.withContextNames.entries →
    (n, m) ∈ p.2.descendants.zip q.2.descendants → n.id = none → n.needsDeclaration = true →
    (∃ a ∈ p.2 :: p.2.descendants, a.id.isSome ∧ n ∈ a.descendants) → InlineDeclared x n m

/-- The key of the second entry is the context name of the `point` in the first. -/
def keyedApart : Index :=
  .ofEntries [("a", holder (some "a")), ("a_b", { id := some "x", type := some (.single .string) })]

/-- The `point` stands below a model with a name, but its entry has none. -/
def namedBelow : Index :=
  .ofEntries [("e", { type := some (.single .object), properties := [("a", holder (some "a"))] })]

/-- In `keyedApart` the inline model is called `a_b` and no reachable model is; in `namedBelow` it gets
no name. -/
theorem inline_lost : ¬ AllInlineDeclared keyedApart ∧ ¬ AllInlineDeclared namedBelow := by
  constructor
  · intro h
    let entries := keyedApart.entries.zip keyedApart.withContextNames.entries
    let nodes := entries[0].1.2.descendants.zip entries[0].2.2.descendants
    obtain ⟨name, d, hname, hd, hid, -⟩ := h entries[0].1 entries[0].2 nodes[0].1 nodes[0].2
      (List.getElem_mem (by decide)) (List.getElem_mem (by decide)) rfl rfl
      ⟨_, List.mem_cons_self, rfl, List.mem_cons_self⟩
    have hb : some name = some "a_b" := hname.symm.trans (by decide)
    have hids : d.id ∈ [some "a", some "x"] := List.mem_map_of_mem hd
    rw [hid, hb] at hids
    exact absurd hids (by decide)
  · intro h
    let entries := namedBelow.entries.zip namedBelow.withContextNames.entries
    let nodes := entries[0].1.2.descendants.zip entries[0].2.2.descendants
    obtain ⟨name, d, hname, -⟩ := h entries[0].1 entries[0].2 nodes[1].1 nodes[1].2
      (List.getElem_mem (by decide)) (List.getElem_mem (by decide)) rfl rfl
      ⟨nodes[0].1, List.mem_cons_of_mem _ List.mem_cons_self, rfl, List.mem_cons_self⟩
    have hnone : nodes[1].2.id = none := by decide
    simp [hnone] at hname

end SchemaGo.Generate
