import Mathlib.Data.List.Perm.Basic
import SchemaGo.Proofs.Model.OwnName
import SchemaGo.Proofs.Model.Reachable

/-! The order of the entries of an index. How an entry is named on its own does not go by the order of
the others, so neither does its naming within the index where the two agree. They agree if every name is
the place it is for, and then also in any other order. Where no name occurs twice, the reachable models
are the entries, each followed by the named structs and enums below it. -/

namespace SchemaGo.Model

open ModelNode (filterMap_id_perm gained gainedAt gained_append gained_nameNested nameNested_congr
  nameNested_fresh)

namespace Index

/-! ### Entries that are named as on their own -/

/-- No name needs a number: every name that is given below an entry is the place it is for. -/
def Unnumbered (x : Index) : Prop :=
  ∀ pq ∈ x.entries.zip x.withContextNames.entries, ∀ id ∈ pq.1.2.id,
    ∀ given ∈ gainedAt id pq.1.2 pq.2.2, given.2 = given.1

instance (x : Index) : Decidable x.Unnumbered :=
  inferInstanceAs (Decidable (∀ pq ∈ x.entries.zip x.withContextNames.entries, ∀ id ∈ pq.1.2.id,
    ∀ given ∈ gainedAt id pq.1.2 pq.2.2, given.2 = given.1))

theorem nameModels_of_places {base : List String} {l : List (String × ModelNode)} {taken : List String}
    (sub : base ⊆ taken)
    (places : ∀ pq ∈ l.zip (nameModels l taken), ∀ id ∈ pq.1.2.id,
      ∀ given ∈ gainedAt id pq.1.2 pq.2.2, given.2 = given.1) :
    nameModels l taken = l.map fun p => (p.1, (p.2.nameNested base).1) := by
  induction l generalizing taken with
  | nil => rfl
  | cons p r ih =>
    obtain ⟨key, m⟩ := p
    simp only [nameModels, List.zip_cons_cons, List.forall_mem_cons] at places
    obtain ⟨hm, hr⟩ := places
    obtain ⟨-, hfree, htaken⟩ := nameNested_fresh m taken
    rw [gained_nameNested] at hfree
    have hown : (m.nameNested base).1 = (m.nameNested taken).1 :=
      nameNested_congr (fun a ha hbase => hfree a ha (sub hbase)) (.inr hm)
    have hgrown : base ⊆ (m.nameNested taken).2 := fun a ha => by
      rw [htaken]
      exact List.mem_append_right _ (sub ha)
    simp only [nameModels, List.map_cons, hown, ih hgrown hr]

theorem nameModels_of_apart {base : List String} {l : List (String × ModelNode)} {taken : List String}
    (sub : base ⊆ taken) (ids : ∀ p ∈ l, ∀ id ∈ p.2.id, id ∈ taken)
    (apart : (l.flatMap fun p => gained p.2.descendants (p.2.nameNested base).1.descendants).Nodup)
    (free : ∀ a ∈ l.flatMap fun p => gained p.2.descendants (p.2.nameNested base).1.descendants,
      a ∉ taken) :
    nameModels l taken = l.map fun p => (p.1, (p.2.nameNested base).1) := by
  induction l generalizing taken with
  | nil => rfl
  | cons p r ih =>
    obtain ⟨key, m⟩ := p
    simp only [List.flatMap_cons, List.forall_mem_append, List.nodup_append] at apart free
    obtain ⟨-, hrest, hapart⟩ := apart
    obtain ⟨hm, hr⟩ := free
    obtain ⟨hid, hids⟩ := List.forall_mem_cons.1 ids
    have hown : (m.nameNested taken).1 = (m.nameNested base).1 := nameNested_congr hm (.inl sub)
    obtain ⟨-, -, htaken⟩ := nameNested_fresh m taken
    rw [gained_nameNested, hown] at htaken
    have hgrown : taken ⊆ (m.nameNested taken).2 := fun a ha => by
      rw [htaken]
      exact List.mem_append_right _ ha
    have hbehind := ih (List.Subset.trans sub hgrown) (fun q hq id h => hgrown (hids q hq id h)) hrest ?_
    · simp only [nameModels, List.map_cons, hown, hbehind]
    · -- the names of the entries behind are neither those of this one nor its own name
      intro a ha hmem
      rw [htaken] at hmem
      rcases List.mem_append.1 hmem with hmem | hmem
      · rcases List.mem_append.1 hmem with hmem | hmem
        · exact hapart a (List.mem_reverse.1 hmem) a ha rfl
        · exact hr a ha (hid a (by simpa using hmem))
      · exact hr a ha hmem

theorem gained_entryNodes (base : List String) (l : List (String × ModelNode)) :
    gained (entryNodes l) (entryNodes (l.map fun p => (p.1, (p.2.nameNested base).1))) =
      l.flatMap fun p => gained p.2.descendants (p.2.nameNested base).1.descendants := by
  induction l with
  | nil => rfl
  | cons p r ih =>
    have hlength := (ModelNode.modelNamed_nameNested p.2 base).below.length_eq
    simp only [entryNodes, List.map_cons, List.flatMap_cons] at ih ⊢
    rw [gained_append (by simp [hlength]), gained_nameNested, ih]

/-- If no name needs a number, every entry is named as on its own. -/
theorem entries_of_unnumbered {x : Index} (h : x.Unnumbered) :
    x.withContextNames.entries = x.entries.map fun p => (p.1, x.nameNested p.2) :=
  nameModels_of_places (List.Subset.refl _) h

/-- Where every entry is named as on its own, no two entries give the same name. -/
theorem nodup_ownNames {x : Index}
    (h : x.withContextNames.entries = x.entries.map fun p => (p.1, x.nameNested p.2)) :
    (x.models.flatMap x.ownNames).Nodup := by
  have hgained := x.gained_fresh.1
  rw [nodes_eq, nodes_eq, h] at hgained
  rw [models, List.flatMap_map]
  exact gained_entryNodes x.ids x.entries ▸ hgained

/-- Where no two entries give the same name on their own, every entry is named as on its own. -/
theorem entries_of_nodup_ownNames {x : Index} (h : (x.models.flatMap x.ownNames).Nodup) :
    x.withContextNames.entries = x.entries.map fun p => (p.1, x.nameNested p.2) := by
  rw [models, List.flatMap_map] at h
  refine nameModels_of_apart (List.Subset.refl _) (fun p hp id hid => ?_) h fun a ha => ?_
  · exact ids_subset hp (List.mem_filterMap.2 ⟨p.2, by simp, hid⟩)
  · obtain ⟨p, -, hp⟩ := List.mem_flatMap.1 ha
    exact (x.ownNames_fresh p.2).2 a hp

/-! ### Other orders -/

section

variable {x y : Index}

theorem ids_perm (perm : y.entries.Perm x.entries) : y.ids.Perm x.ids :=
  (perm.map _).flatMap_right _

/-- How a model is named on its own does not go by the order of the entries. -/
theorem nameNested_perm (perm : y.entries.Perm x.entries) (m : ModelNode) :
    y.nameNested m = x.nameNested m := by
  have hids := ids_perm perm
  refine nameNested_congr (fun a ha hmem => ?_) (.inl hids.symm.subset)
  exact (x.ownNames_fresh m).2 a ha (hids.mem_iff.1 hmem)

/-- If no name needs a number in one order of the entries, every entry is named as on its own in any
order. -/
theorem entries_of_perm (perm : y.entries.Perm x.entries) (h : x.Unnumbered) :
    y.withContextNames.entries = y.entries.map fun p => (p.1, x.nameNested p.2) := by
  have hown : y.ownNames = x.ownNames := by
    funext m
    rw [ownNames, nameNested_perm perm, ownNames]
  have hsame : (y.models.flatMap y.ownNames).Perm (x.models.flatMap x.ownNames) := by
    rw [hown]
    exact (perm.map _).flatMap_right _
  have hnodup := nodup_ownNames (entries_of_unnumbered h)
  rw [entries_of_nodup_ownNames (hsame.nodup_iff.2 hnodup)]
  exact List.map_congr_left fun p _ => by rw [nameNested_perm perm]

theorem withContextNames_perm (perm : y.entries.Perm x.entries) (h : x.Unnumbered) :
    y.withContextNames.entries.Perm x.withContextNames.entries := by
  rw [entries_of_perm perm h, entries_of_unnumbered h]
  exact perm.map _

theorem get?_perm (perm : y.entries.Perm x.entries) (key : String) : y.get? key = x.get? key := by
  have hmem : ∀ m, y.get? key = some m ↔ x.get? key = some m := fun m => by
    rw [get?_iff_mem, get?_iff_mem, perm.mem_iff]
  exact Option.ext hmem

end

/-! ### Models that are declared for an entry -/

/-- A model and the named structs and enums below it. -/
def declared (m : ModelNode) : List ModelNode :=
  m :: m.descendants.filter fun n => n.kind ≠ .other ∧ n.id.isSome

end Index

theorem declaredIn_eq_filter {seen : List String} {l : List ModelNode}
    (nodup : (l.filterMap (·.id)).Nodup) (free : ∀ name ∈ l.filterMap (·.id), name ∉ seen) :
    (declaredIn seen l).1 = l.filter fun n => n.kind ≠ .other ∧ n.id.isSome := by
  induction l generalizing seen with
  | nil => rfl
  | cons n r ih =>
    cases hid : n.id with
    | none =>
      simp only [List.filterMap_cons, hid] at nodup free
      simp [declaredIn, hid, ih nodup free]
    | some id =>
      simp only [List.filterMap_cons, hid, List.nodup_cons, List.forall_mem_cons] at nodup free
      by_cases hkind : n.kind = .other
      · simp [declaredIn, hid, hkind, ih nodup.2 free.2]
      · have hrest : ∀ name ∈ r.filterMap (·.id), name ∉ id :: seen := by
          intro name hname hmem
          rcases List.mem_cons.1 hmem with rfl | hmem
          · exact nodup.1 hname
          · exact free.2 name hname hmem
        simp [declaredIn, hid, hkind, free.1, ih nodup.2 hrest]

theorem declaredFrom_eq_flatMap {seen : List String} {l : List ModelNode}
    (nodup : (l.flatMap fun m => m.descendants.filterMap (·.id)).Nodup)
    (free : ∀ name ∈ l.flatMap fun m => m.descendants.filterMap (·.id), name ∉ seen) :
    declaredFrom seen l = l.flatMap Index.declared := by
  induction l generalizing seen with
  | nil => rfl
  | cons m r ih =>
    simp only [List.flatMap_cons, List.forall_mem_append, List.nodup_append] at nodup free
    obtain ⟨hm, hr, hapart⟩ := nodup
    have hbehind : ∀ name ∈ r.flatMap fun m => m.descendants.filterMap (·.id),
        name ∉ (declaredIn seen m.descendants).2 := by
      intro name hname hmem
      rcases mem_declaredIn_seen.1 hmem with hmem | ⟨d, hd, hid⟩
      · exact free.2 name hname hmem
      · exact hapart name (List.mem_filterMap.2 ⟨d, (mem_declaredIn hd).1, hid⟩) name hname rfl
    simp only [declaredFrom, declaredIn_eq_filter hm free.1, ih hr hbehind, List.flatMap_cons,
      Index.declared]

/-! ### Names that occur once -/

namespace Index

/-- The names in a named index are those of the index and the new ones. -/
theorem ids_withContextNames_perm (x : Index) :
    x.withContextNames.ids.Perm (x.ids ++ gained x.nodes x.withContextNames.nodes) := by
  rw [ids_eq, ids_eq]
  exact filterMap_id_perm x.nodes_kept

theorem nodup_ids_withContextNames {x : Index} (once : x.ids.Nodup) : x.withContextNames.ids.Nodup := by
  obtain ⟨hnodup, hfree⟩ := x.gained_fresh
  rw [x.ids_withContextNames_perm.nodup_iff, List.nodup_append]
  refine ⟨once, hnodup, fun a ha b hb hab => hfree b hb (hab ▸ ha)⟩

/-- The names in an index are its keys and the names below its entries. -/
theorem ids_perm_keys {x : Index} (hx : x.KeyedByName) :
    x.ids.Perm (x.keys ++ x.models.flatMap fun m => m.descendants.filterMap (·.id)) := by
  have hids : x.ids = x.entries.flatMap fun p => p.1 :: p.2.descendants.filterMap (·.id) := by
    rw [ids, models, List.flatMap_map]
    exact List.flatMap_congr fun p hp => by simp [ModelNode.ids, hx p hp]
  rw [hids, models, List.flatMap_map]
  exact (List.map_append_flatMap_perm x.entries _ _).symm

/-- Where no name occurs twice, the reachable models are those declared for the entries. -/
theorem reachable_eq_flatMap {x : Index} (hx : x.KeyedByName) (once : x.ids.Nodup) :
    x.reachable = x.models.flatMap declared := by
  have hnodup := (ids_perm_keys hx).nodup_iff.1 once
  obtain ⟨-, hbelow, hapart⟩ := List.nodup_append.1 hnodup
  exact declaredFrom_eq_flatMap hbelow fun name hname hkey => hapart name hkey name hname rfl

end Index

end SchemaGo.Model
