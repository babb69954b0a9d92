import Mathlib.Data.List.Flatten
import SchemaGo.Proofs.Model.Order

/-! Context names, path by path. A bare path leads down from a node through anonymous ones, and the place
of a node is the name at the top of a bare path to it joined with the path's segments. Claims are followed
through the walk over an index, so every new name comes from a place and the names taken when the walk
comes there. A new name stands at one node only, so there is one place for it. Main statement: a new name
is the place of its node, or the place with the least number that makes it free. -/

namespace SchemaGo.Model

namespace ModelNode

/-! ### Bare paths -/

/-- The positions from a node down to one below it, with no named node in between. -/
inductive BarePath : ModelNode → List Position → ModelNode → Prop
  | last {n c : ModelNode} {position : Position} (child : (position, c) ∈ n.positions) :
      BarePath n [position] c
  | through {n c d : ModelNode} {position : Position} {path : List Position}
      (child : (position, c) ∈ n.positions) (anonymous : c.id = none) (rest : BarePath c path d) :
      BarePath n (position :: path) d

/-- A context and the segments of a path, joined by underscores. -/
def joined (context : String) (path : List Position) : String :=
  "_".intercalate (context :: path.map Position.segment)

theorem joined_cons (context : String) (position : Position) (path : List Position) :
    joined context (position :: path) = joined (context ++ "_" ++ position.segment) path :=
  rfl

/-- The nodes below a node whose context is `context`, each behind its place. -/
def placedBelow (context : String) (n : ModelNode) : List (String × ModelNode) :=
  (placesBelow context n).zip n.descendants

theorem placedBelow_eq (context : String) (n : ModelNode) :
    placedBelow context n = n.positions.flatMap fun p =>
      let place := context ++ "_" ++ p.1.segment
      (place, p.2) :: placedBelow (p.2.id.getD place) p.2 := by
  have hzip : ∀ l : List (Position × ModelNode),
      (placesIn context l).zip ((l.map (·.2)).flatMap fun c => c :: c.descendants) =
        l.flatMap fun p =>
          let place := context ++ "_" ++ p.1.segment
          (place, p.2) :: placedBelow (p.2.id.getD place) p.2 := by
    intro l
    induction l with
    | nil => rfl
    | cons p r ih =>
      simp only [placesIn, List.flatMap_cons, List.map_cons] at ih ⊢
      rw [List.zip_append (length_placesAt _ p.2), ih]
      rfl
  rw [placedBelow, placesBelow_eq, descendants_eq]
  exact hzip n.positions

theorem mem_placedBelow_iff_child {context : String} {n : ModelNode} {pd : String × ModelNode} :
    pd ∈ placedBelow context n ↔ ∃ position c, (position, c) ∈ n.positions ∧
      (pd = (context ++ "_" ++ position.segment, c) ∨
        pd ∈ placedBelow (c.id.getD (context ++ "_" ++ position.segment)) c) := by
  simp [placedBelow_eq context n]

/-- The places of the nodes below a node are the context joined with the bare paths from it, and the names
of the nodes below it joined with the bare paths from these. -/
theorem mem_placedBelow {context place : String} {n d : ModelNode} :
    (place, d) ∈ placedBelow context n ↔
      (∃ path, BarePath n path d ∧ place = joined context path) ∨
        ∃ u ∈ n.descendants, ∃ a path, u.id = some a ∧ BarePath u path d ∧ place = joined a path := by
  induction n using childInduction generalizing context with
  | step n ih =>
    have hchild : ∀ {position : Position} {c : ModelNode}, (position, c) ∈ n.positions → c ∈ n.children :=
      fun h => List.mem_map.2 ⟨_, h, rfl⟩
    rw [mem_placedBelow_iff_child]
    constructor
    · rintro ⟨position, c, hc, heq | hmem⟩
      · obtain ⟨rfl, rfl⟩ := Prod.mk.inj heq
        exact .inl ⟨[position], .last hc, rfl⟩
      · rcases (ih c (hchild hc)).1 hmem with ⟨path, hpath, hplace⟩ | ⟨u, hu, rest⟩
        · -- a child without a name makes the path longer, and one with a name is where it starts
          cases hid : c.id with
          | none =>
            rw [hid] at hplace
            exact .inl ⟨position :: path, .through hc hid hpath, hplace⟩
          | some a =>
            rw [hid] at hplace
            exact .inr ⟨c, mem_descendants_of_child (hchild hc), a, path, hid, hpath, hplace⟩
        · exact .inr ⟨u, mem_descendants.2 ⟨c, hchild hc, .inr hu⟩, rest⟩
    · rintro (⟨path, hpath, rfl⟩ | ⟨u, hu, a, path, hid, hpath, rfl⟩)
      · cases hpath with
        | last hc => exact ⟨_, d, hc, .inl rfl⟩
        | @through _ c _ position path hc anonymous rest =>
          refine ⟨position, c, hc, .inr ((ih c (hchild hc)).2 (.inl ⟨path, rest, ?_⟩))⟩
          rw [anonymous, joined_cons]
          rfl
      · obtain ⟨c, hc, hu⟩ := mem_descendants.1 hu
        obtain ⟨⟨position, _⟩, hp, rfl⟩ := List.mem_map.1 hc
        refine ⟨position, _, hp, .inr ((ih _ hc).2 ?_)⟩
        rcases hu with rfl | hu
        · exact .inl ⟨path, hpath, by rw [hid]; rfl⟩
        · exact .inr ⟨u, hu, a, path, hid, hpath, rfl⟩

/-! ### Names claimed at places -/

/-- Claims add to the taken names what the nodes gain. -/
theorem taken_claimNames {places : List String} {l l' : List ModelNode} {taken taken' : List String}
    (hplaces : places.length = l.length)
    (h : claimNames (places.zip l) taken = (l'.map (·.id), taken')) :
    taken' = (gained l l').reverse ++ taken := by
  induction places generalizing l l' taken with
  | nil =>
    obtain rfl : l = [] := by simpa using hplaces.symm
    obtain ⟨-, rfl⟩ := Prod.mk.inj h
    rfl
  | cons place places ih =>
    obtain ⟨n, l, rfl⟩ := List.exists_cons_of_length_eq_add_one hplaces.symm
    obtain ⟨hnames, htaken⟩ := Prod.mk.inj h
    obtain ⟨m, l', rfl, hm, hl'⟩ := List.map_eq_cons_iff.1 hnames.symm
    have hrest := ih (by simpa using hplaces) (Prod.ext hl'.symm htaken)
    by_cases hn : n.Settled
    · rw [claimName_settled hn] at hm hrest
      have hgained : gained (n :: l) (m :: l') = gained l l' := by
        cases hid : n.id <;> simp [gained, hid, hm]
      rw [hgained, hrest]
    · obtain ⟨anonymous, hclaim⟩ := claimName_unsettled hn place taken
      rw [hclaim] at hm hrest
      rw [hrest]
      simp [gained, anonymous, hm]

/-- A new name is the free name of a place, against the names taken at the start and those gained by the
nodes before. -/
theorem exists_place_of_claimNames {places : List String}
    {l l' before before' behind behind' : List ModelNode} {n v : ModelNode} {name : String}
    {taken taken' : List String}
    (hplaces : places.length = l.length)
    (h : claimNames (places.zip l) taken = (l'.map (·.id), taken'))
    (hl : l = before ++ n :: behind) (hl' : l' = before' ++ v :: behind')
    (hlength : before.length = before'.length) (anonymous : n.id = none) (named : v.id = some name) :
    ∃ place, (place, v) ∈ places.zip l' ∧
      freeName ((gained before before').reverse ++ taken) place = name := by
  subst hl hl'
  obtain ⟨ps, place, qs, rfl, hps⟩ : ∃ ps place qs, places = ps ++ place :: qs ∧
      ps.length = before.length := by
    have hlt : before.length < places.length := by simp [hplaces]
    refine ⟨places.take before.length, places[before.length], places.drop (before.length + 1), ?_, ?_⟩
    · rw [← List.drop_eq_getElem_cons hlt, List.take_append_drop]
    · simp; omega
  rw [List.zip_append hps, List.map_append, claimNames_append_eq_iff (by simp [hps, hlength])] at h
  obtain ⟨t, hbefore, hv⟩ := h
  obtain rfl := taken_claimNames hps hbefore
  refine ⟨place, by simp [List.zip_append (hps.trans hlength)], ?_⟩
  have hclaim : (claimName place n _).1 = some name :=
    (List.cons.inj (Prod.mk.inj hv).1).1.trans named
  by_cases hn : n.Settled
  · rw [claimName_settled hn, anonymous] at hclaim
    cases hclaim
  · rw [(claimName_unsettled hn _ _).2] at hclaim
    exact Option.some.inj hclaim

/-- The nodes below a model, each behind its place. Without a name the model gives an empty context. -/
def placed (m : ModelNode) : List (String × ModelNode) :=
  placedBelow (m.id.getD "") m

/-- A model's own name has no place. -/
theorem filterMap_id_placed (m : ModelNode) : (m.placed.filterMap (·.2.id)).Sublist m.ids := by
  have hnodes : m.placed.map (·.2) = m.descendants :=
    List.map_snd_zip (Nat.le_of_eq (length_placesBelow _ m).symm)
  have hids : m.placed.filterMap (·.2.id) = m.descendants.filterMap (·.id) := by
    rw [← hnodes, List.filterMap_map]
    rfl
  rw [hids]
  exact (List.sublist_cons_self m m.descendants).filterMap _

/-- Every bare path from a named node gives a place, also below a model without a name. -/
theorem mem_placed {m u d : ModelNode} {a : String} {path : List Position}
    (hu : u = m ∨ u ∈ m.descendants) (hid : u.id = some a) (hpath : BarePath u path d) :
    (joined a path, d) ∈ m.placed := by
  refine mem_placedBelow.2 ?_
  rcases hu with rfl | hu
  · exact .inl ⟨path, hpath, by rw [hid]; rfl⟩
  · exact .inr ⟨u, hu, a, path, hid, hpath, rfl⟩

theorem exists_barePath {m d : ModelNode} {place : String} (named : m.id.isSome)
    (h : (place, d) ∈ m.placed) :
    ∃ u, (u = m ∨ u ∈ m.descendants) ∧
      ∃ a path, u.id = some a ∧ BarePath u path d ∧ place = joined a path := by
  obtain ⟨id, hid⟩ := Option.isSome_iff_exists.1 named
  rcases mem_placedBelow.1 h with ⟨path, hpath, hplace⟩ | ⟨u, hu, rest⟩
  · rw [hid] at hplace
    exact ⟨m, .inl rfl, id, path, hid, hpath, hplace⟩
  · exact ⟨u, .inr hu, rest⟩

/-- A new name below a model is the free name of a place, against the names taken at the start and those
gained by the nodes before. -/
theorem exists_place_of_nameNested {m n v : ModelNode} {before behind : List (ModelNode × ModelNode)}
    {name : String} {taken : List String} (hid : ∀ id ∈ m.id, id ∈ taken)
    (h : m.descendants.zip (m.nameNested taken).1.descendants = before ++ (n, v) :: behind)
    (anonymous : n.id = none) (named : v.id = some name) :
    (m.nameNested taken).1.id.isSome ∧ ∃ place, (place, v) ∈ (m.nameNested taken).1.placed ∧
      freeName (taken ++ gained (before.map (·.1)) (before.map (·.2))) place = name := by
  have hsame := modelNamed_nameNested m taken
  cases hm : m.id with
  | none =>
    -- below a model without a name nothing is named
    have hkept := List.forall₂_zip hsame.below (a := n) (b := v) (h ▸ by simp)
    simp [NamedFrom, hm, anonymous, named] at hkept
  | some id =>
    refine ⟨by simp [hsame.id_eq, hm], ?_⟩
    have hbelow : m.nameNested taken = nameBelow id m (id :: taken) := by simp [nameNested, hm]
    rw [placed, hsame.id_eq, hm]
    rw [hbelow] at h hsame ⊢
    obtain ⟨-, -, hnames⟩ := nameBelow_eq_iff.1 (rfl : nameBelow id m (id :: taken) = (_, _))
    obtain ⟨ws, xs, ys, zs, hlength, hxs, hys, rfl, hrest⟩ := List.zip_eq_append_iff.1 h
    obtain ⟨xs, zs, rfl, rfl, hbehind⟩ := List.zip_eq_cons_iff.1 hrest.symm
    obtain ⟨place, hplace, hname⟩ := exists_place_of_claimNames
      ((length_placesBelow _ _).trans hsame.below.length_eq.symm) hnames hxs hys hlength anonymous named
    refine ⟨place, hplace, ?_⟩
    rw [← hname, List.map_fst_zip (Nat.le_of_eq hlength),
      List.map_snd_zip (Nat.le_of_eq hlength.symm)]
    -- the model's own name, which the walk takes first, was taken before
    refine freeName_congr (fun a => ?_) place
    have := hid id hm
    simp only [List.mem_append, List.mem_reverse, List.mem_cons]
    grind

end ModelNode

namespace Index

open ModelNode

/-! ### Entries -/

theorem split_of_append {α : Type} {l r before behind : List α} {a : α}
    (h : l ++ r = before ++ a :: behind) :
    (∃ rest, l = before ++ a :: rest ∧ behind = rest ++ r) ∨
      ∃ later, before = l ++ later ∧ r = later ++ a :: behind := by
  rcases List.append_eq_append_iff.1 h with ⟨later, hbefore, hr⟩ | ⟨_ | ⟨b, rest⟩, hl, hbehind⟩
  · exact .inr ⟨later, hbefore, hr⟩
  · exact .inr ⟨[], by simpa using hl.symm, hbehind.symm⟩
  · obtain ⟨rfl, rfl⟩ := List.cons.inj hbehind
    exact .inl ⟨rest, hl, rfl⟩

/-- A new name in an index is the free name of a place, against the names taken at the start and those
gained by the nodes before. -/
theorem exists_place_of_nameModels {l : List (String × ModelNode)} {n v : ModelNode}
    {before behind : List (ModelNode × ModelNode)} {name : String} {taken : List String}
    (ids : ∀ p ∈ l, ∀ id ∈ p.2.id, id ∈ taken)
    (h : (entryNodes l).zip (entryNodes (nameModels l taken)) = before ++ (n, v) :: behind)
    (anonymous : n.id = none) (named : v.id = some name) :
    ∃ q ∈ nameModels l taken, q.2.id.isSome ∧ ∃ place, (place, v) ∈ q.2.placed ∧
      freeName (taken ++ gained (before.map (·.1)) (before.map (·.2))) place = name := by
  induction l generalizing taken before with
  | nil => simp [entryNodes] at h
  | cons p r ih =>
    obtain ⟨key, m⟩ := p
    obtain ⟨hid, hids⟩ := List.forall_mem_cons.1 ids
    have hsame := modelNamed_nameNested m taken
    have hlength := hsame.below.length_eq
    obtain ⟨-, -, htaken⟩ := nameNested_fresh m taken
    simp only [entryNodes, nameModels, List.flatMap_cons] at h ih ⊢
    rw [List.zip_append (by simp [hlength])] at h
    rcases split_of_append h with ⟨rest, hm, -⟩ | ⟨later, rfl, hlater⟩
    · -- the node stands below this entry, as an entry keeps its name
      refine ⟨_, List.mem_cons_self, ?_⟩
      cases before with
      | nil =>
        obtain ⟨rfl, rfl⟩ := Prod.mk.inj (List.cons.inj hm).1
        rw [hsame.id_eq, anonymous] at named
        cases named
      | cons s before =>
        obtain ⟨rfl, hbelow⟩ := List.cons.inj hm
        obtain ⟨hqid, place, hplace, hname⟩ := exists_place_of_nameNested hid hbelow anonymous named
        refine ⟨hqid, place, hplace, ?_⟩
        rw [← hname]
        cases hmid : m.id <;> simp [gained, hsame.id_eq, hmid]
    · -- the node stands below an entry behind this one
      obtain ⟨q, hq, hqid, place, hplace, hname⟩ := ih
        (fun q hq id hmem => by rw [htaken]; exact List.mem_append_right _ (hids q hq id hmem)) hlater
      refine ⟨q, List.mem_cons_of_mem _ hq, hqid, place, hplace, ?_⟩
      rw [← hname]
      refine freeName_congr (fun a => ?_) place
      rw [htaken, List.map_append, List.map_append, gained_append (by simp),
        List.map_fst_zip (by simp [hlength]), List.map_snd_zip (by simp [hlength])]
      simp only [List.mem_append, List.mem_reverse, Option.mem_toList]
      grind

/-- A new name stands at one node below an entry only, so that node has one place. -/
theorem place_unique {x : Index} {v : ModelNode} {name place place' : String}
    (new : name ∈ gained x.nodes x.withContextNames.nodes) (hv : v.id = some name)
    (h : (place, v) ∈ x.withContextNames.models.flatMap placed)
    (h' : (place', v) ∈ x.withContextNames.models.flatMap placed) : place' = place := by
  obtain ⟨hnodup, hfree⟩ := x.gained_fresh
  have hcount : x.withContextNames.ids.count name = 1 := by
    rw [x.ids_withContextNames_perm.count_eq, List.count_append, List.count_eq_zero.2 (hfree name new),
      List.count_eq_one_of_mem hnodup new]
  let named := x.withContextNames.models.flatMap placed
  have hsub : (named.filterMap (·.2.id)).Sublist x.withContextNames.ids := by
    rw [List.filterMap_flatMap]
    exact List.Sublist.flatMap_right _ fun m _ => filterMap_id_placed m
  have honce : (named.filter (·.2.id == some name)).length ≤ 1 := by
    rw [← List.countP_eq_length_filter, ← List.count_filterMap, ← hcount]
    exact hsub.count_le name
  have hmem : ∀ p, (p, v) ∈ named → (p, v) ∈ named.filter (·.2.id == some name) := fun p hp =>
    List.mem_filter.2 ⟨hp, by simp [hv]⟩
  obtain ⟨s, hs⟩ := List.length_eq_one_iff.1
    (Nat.le_antisymm honce (List.length_pos_of_mem (hmem place h)))
  have hfirst := hmem place h
  have hsecond := hmem place' h'
  rw [hs, List.mem_singleton] at hfirst hsecond
  exact (Prod.mk.inj (hsecond.trans hfirst.symm)).1

/-- A new name belongs to a node below one with a name. It is the name of the nearest such node joined
with the path from there, or that with the least number that makes it free of the names in the index and
those given to the nodes before in the walk. The search for it ends after at most one more try than there
are such names. -/
theorem new_name_exact (x : Index) {before behind : List (ModelNode × ModelNode)} {n v : ModelNode}
    {name : String} (step : x.nodes.zip x.withContextNames.nodes = before ++ (n, v) :: behind)
    (anonymous : n.id = none) (named : v.id = some name) :
    let taken := x.ids ++ gained (before.map (·.1)) (before.map (·.2))
    (∃ u ∈ x.withContextNames.nodes, ∃ a path, u.id = some a ∧ BarePath u path v) ∧
      ∀ u ∈ x.withContextNames.nodes, ∀ a path, u.id = some a → BarePath u path v →
        LeastFree taken (joined a path) name ∧
          ∃ tries ≤ taken.dedup.length + 1, Search taken (joined a path) (joined a path) 2 tries name := by
  intro taken
  have hids : ∀ p ∈ x.entries, ∀ id ∈ p.2.id, id ∈ x.ids := fun p hp id hid =>
    ids_subset hp (List.mem_filterMap.2 ⟨p.2, by simp, hid⟩)
  have hwalk := step
  rw [nodes_eq, nodes_eq] at hwalk
  obtain ⟨q, hq, hqid, place, hplace, hname⟩ := exists_place_of_nameModels hids hwalk anonymous named
  have hmodel : q.2 ∈ x.withContextNames.models := List.mem_map.2 ⟨q, hq, rfl⟩
  constructor
  · obtain ⟨u, hu, a, path, hid, hpath, -⟩ := exists_barePath hqid hplace
    exact ⟨u, mem_nodes.2 ⟨q.2, hmodel, hu⟩, a, path, hid, hpath⟩
  · intro u hu a path hid hpath
    obtain ⟨m, hm, hum⟩ := mem_nodes.1 hu
    have hpair : (n, v) ∈ x.nodes.zip x.withContextNames.nodes := step ▸ by simp
    have hnew : name ∈ gained x.nodes x.withContextNames.nodes :=
      List.mem_filterMap.2 ⟨(n, v), hpair, by simp [anonymous, named]⟩
    obtain rfl : joined a path = place := place_unique hnew named
      (List.mem_flatMap.2 ⟨q.2, hmodel, hplace⟩) (List.mem_flatMap.2 ⟨m, hm, mem_placed hum hid hpath⟩)
    obtain ⟨tries, hle, hsearch⟩ := exists_search taken (joined a path)
    rw [hname] at hsearch
    exact ⟨freeName_eq_iff_leastFree.1 hname, tries, hle, hsearch⟩

/-- An enum with the given name. -/
def symbol (id : Option String) : ModelNode where
  id := id
  enumValues := some [.string "x"]

/-- An object that holds an enum with a name under `key`. -/
def holder (id key name : String) : ModelNode where
  id := some id
  type := some (.single .object)
  properties := [(key, symbol (some name))]

/-- Of two entries whose names cross, the second one finds its place taken. -/
theorem new_name_exact_crossed :
    let before := [(marked "a" "b_c", holder "a" "b_c" "a_b_c"), (symbol none, symbol (some "a_b_c")),
      (marked "a_b" "c", holder "a_b" "c" "a_b_c2")]
    let v := symbol (some "a_b_c2")
    crossed.nodes.zip crossed.withContextNames.nodes = before ++ [(symbol none, v)] ∧
      BarePath (holder "a_b" "c" "a_b_c2") [.property "c"] v ∧
      LeastFree (crossed.ids ++ gained (before.map (·.1)) (before.map (·.2))) "a_b_c" "a_b_c2" := by
  intro before v
  have step : crossed.nodes.zip crossed.withContextNames.nodes = before ++ [(symbol none, v)] := rfl
  have hpath : BarePath (holder "a_b" "c" "a_b_c2") [.property "c"] v :=
    .last (List.mem_of_getElem? (i := 0) rfl)
  have hnode : holder "a_b" "c" "a_b_c2" ∈ crossed.withContextNames.nodes :=
    List.mem_of_getElem? (i := 2) rfl
  exact ⟨step, hpath, ((new_name_exact crossed step rfl rfl).2 _ hnode "a_b" _ rfl hpath).1⟩

end Index

end SchemaGo.Model
