import SchemaGo.Model.Reachable
import SchemaGo.Proofs.Model.Insertion

/-! The reachable models of an index: its entries, and behind them the named structs and enums below
them whose names were not seen. A name is seen if it is a key of the index or the name of a model
listed before. -/

namespace SchemaGo.Model

/-! ### One list of nodes -/

theorem mem_declaredIn {seen : List String} {l : List ModelNode} {d : ModelNode}
    (h : d ∈ (declaredIn seen l).1) :
    d ∈ l ∧ d.kind ≠ .other ∧ ∃ id, d.id = some id ∧ id ∉ seen := by
  induction l generalizing seen with
  | nil => simp [declaredIn] at h
  | cons n r ih =>
    simp only [declaredIn] at h
    split at h
    · next id hid =>
      split at h
      · next hnew =>
        rcases List.mem_cons.1 h with rfl | h
        · exact ⟨by simp, hnew.1, id, hid, hnew.2⟩
        · obtain ⟨hd, hkind, name, hname, hseen⟩ := ih h
          exact ⟨by simp [hd], hkind, name, hname, fun hs => hseen (by simp [hs])⟩
      · obtain ⟨hd, rest⟩ := ih h
        exact ⟨by simp [hd], rest⟩
    · obtain ⟨hd, rest⟩ := ih h
      exact ⟨by simp [hd], rest⟩

/-- The names seen at the end are those seen before and those of the models listed. -/
theorem mem_declaredIn_seen {seen : List String} {l : List ModelNode} {name : String} :
    name ∈ (declaredIn seen l).2 ↔
      name ∈ seen ∨ ∃ d ∈ (declaredIn seen l).1, d.id = some name := by
  induction l generalizing seen with
  | nil => simp [declaredIn]
  | cons n r ih =>
    simp only [declaredIn]
    split
    · next id hid =>
      split
      · simp only [ih, List.mem_cons, exists_eq_or_imp, hid, Option.some.injEq]
        grind
      · exact ih
    · exact ih

theorem declaredIn_complete (seen : List String) {l : List ModelNode} {n : ModelNode} {name : String}
    (hn : n ∈ l) (hkind : n.kind ≠ .other) (hid : n.id = some name) :
    name ∈ (declaredIn seen l).2 := by
  induction l generalizing seen with
  | nil => simp at hn
  | cons m r ih =>
    simp only [declaredIn]
    rcases List.mem_cons.1 hn with rfl | hn
    · simp only [hid]
      split
      · exact mem_declaredIn_seen.2 (.inl (by simp))
      · next hold =>
        have : name ∈ seen := by simpa [hkind] using hold
        exact mem_declaredIn_seen.2 (.inl this)
    · split
      · split
        · exact ih _ hn
        · exact ih _ hn
      · exact ih _ hn

/-! ### All entries -/

theorem mem_declaredFrom {seen : List String} {l : List ModelNode} {d : ModelNode}
    (h : d ∈ declaredFrom seen l) :
    d ∈ l ∨ (∃ m ∈ l, d ∈ m.descendants) ∧ d.kind ≠ .other ∧ ∃ id, d.id = some id ∧ id ∉ seen := by
  induction l generalizing seen with
  | nil => simp [declaredFrom] at h
  | cons m r ih =>
    simp only [declaredFrom, List.cons_append, List.mem_cons, List.mem_append] at h
    rcases h with rfl | h | h
    · exact .inl (by simp)
    · obtain ⟨hd, rest⟩ := mem_declaredIn h
      exact .inr ⟨⟨m, by simp, hd⟩, rest⟩
    · rcases ih h with hd | ⟨⟨k, hk, hd⟩, hkind, id, hid, hseen⟩
      · exact .inl (by simp [hd])
      · exact .inr ⟨⟨k, by simp [hk], hd⟩, hkind, id, hid,
          fun hs => hseen (mem_declaredIn_seen.2 (.inl hs))⟩

theorem mem_declaredFrom_of_mem {seen : List String} {l : List ModelNode} {m : ModelNode}
    (h : m ∈ l) : m ∈ declaredFrom seen l := by
  induction l generalizing seen with
  | nil => simp at h
  | cons k r ih =>
    simp only [declaredFrom, List.cons_append, List.mem_cons, List.mem_append]
    rcases List.mem_cons.1 h with rfl | h
    · exact .inl rfl
    · exact .inr (.inr (ih h))

theorem declaredFrom_complete (seen : List String) {l : List ModelNode} {m n : ModelNode}
    {name : String} (hm : m ∈ l) (hn : n ∈ m.descendants) (hkind : n.kind ≠ .other)
    (hid : n.id = some name) :
    name ∈ seen ∨ ∃ d ∈ declaredFrom seen l, d.kind ≠ .other ∧ d.id = some name := by
  induction l generalizing seen with
  | nil => simp at hm
  | cons k r ih =>
    simp only [declaredFrom, List.cons_append, List.mem_cons, List.mem_append]
    rcases List.mem_cons.1 hm with rfl | hm
    · rcases mem_declaredIn_seen.1 (declaredIn_complete seen hn hkind hid) with hs | hd
      · exact .inl hs
      · obtain ⟨d, hd, hname⟩ := hd
        exact .inr ⟨d, .inr (.inl hd), (mem_declaredIn hd).2.1, hname⟩
    · rcases ih (declaredIn seen k.descendants).2 hm with hs | ⟨d, hd, rest⟩
      · rcases mem_declaredIn_seen.1 hs with hs | ⟨d, hd, hname⟩
        · exact .inl hs
        · exact .inr ⟨d, .inr (.inl hd), (mem_declaredIn hd).2.1, hname⟩
      · exact .inr ⟨d, .inr (.inr hd), rest⟩

/-! ### Names once -/

theorem nodup_declaredIn (seen : List String) (l : List ModelNode) :
    ((declaredIn seen l).1.map (·.id)).Nodup := by
  induction l generalizing seen with
  | nil => simp [declaredIn]
  | cons n r ih =>
    simp only [declaredIn]
    split
    · next id hid =>
      split
      · refine List.nodup_cons.2 ⟨fun hmem => ?_, ih (id :: seen)⟩
        obtain ⟨d, hd, hname⟩ := List.mem_map.1 hmem
        obtain ⟨-, -, name, hdname, hnew⟩ := mem_declaredIn hd
        have hsame : name = id := Option.some.inj (hdname.symm.trans (hname.trans hid))
        exact hnew (by simp [hsame])
      · exact ih seen
    · exact ih seen

theorem id_declaredIn {seen : List String} {l : List ModelNode} {d : ModelNode} {name : String}
    (h : d ∈ (declaredIn seen l).1) (hid : d.id = some name) :
    name ∉ seen ∧ name ∈ (declaredIn seen l).2 := by
  obtain ⟨-, -, name', hid', hnew⟩ := mem_declaredIn h
  obtain rfl : name' = name := Option.some.inj (hid'.symm.trans hid)
  exact ⟨hnew, mem_declaredIn_seen.2 (.inr ⟨d, h, hid⟩)⟩

theorem id_declaredFrom {seen : List String} {l : List ModelNode} {d : ModelNode} {name : String}
    (h : d ∈ declaredFrom seen l) (hid : d.id = some name) : d ∈ l ∨ name ∉ seen := by
  rcases mem_declaredFrom h with hd | ⟨-, -, name', hid', hnew⟩
  · exact .inl hd
  · obtain rfl : name' = name := Option.some.inj (hid'.symm.trans hid)
    exact .inr hnew

/-- If the names of a list are distinct and seen from the start, every name is listed once. -/
theorem nodup_declaredFrom {seen : List String} {l : List ModelNode} (hl : (l.map (·.id)).Nodup)
    (hseen : ∀ m ∈ l, ∃ id ∈ seen, m.id = some id) : ((declaredFrom seen l).map (·.id)).Nodup := by
  induction l generalizing seen with
  | nil => simp [declaredFrom]
  | cons m r ih =>
    obtain ⟨hm, hr⟩ := List.nodup_cons.1 hl
    obtain ⟨⟨id, hid, hname⟩, hseen⟩ := List.forall_mem_cons.1 hseen
    have hgrown : ∀ name ∈ seen, name ∈ (declaredIn seen m.descendants).2 :=
      fun _ h => mem_declaredIn_seen.2 (.inl h)
    have hrest := ih hr fun k hk => (hseen k hk).imp fun _ h => ⟨hgrown _ h.1, h.2⟩
    simp only [declaredFrom, List.cons_append, List.map_cons, List.map_append, List.nodup_cons,
      List.nodup_append]
    refine ⟨fun hmem => ?_, nodup_declaredIn seen m.descendants, hrest, ?_⟩
    · rw [← List.map_append, List.mem_map, hname] at hmem
      obtain ⟨d, hd, hdname⟩ := hmem
      rcases List.mem_append.1 hd with hd | hd
      · exact (id_declaredIn hd hdname).1 hid
      · rcases id_declaredFrom hd hdname with hdr | hnew
        · exact hm (List.mem_map.2 ⟨d, hdr, hdname.trans hname.symm⟩)
        · exact hnew (hgrown id hid)
    · rintro _ hnested _ hbehind rfl
      obtain ⟨d, hd, hde⟩ := List.mem_map.1 hnested
      obtain ⟨e, he, rfl⟩ := List.mem_map.1 hbehind
      obtain ⟨-, -, name, hdname, -⟩ := mem_declaredIn hd
      obtain ⟨hnew, hnow⟩ := id_declaredIn hd hdname
      rcases id_declaredFrom he (hde.symm.trans hdname) with her | hold
      · obtain ⟨name', hname', hename⟩ := hseen e her
        obtain rfl : name' = name := Option.some.inj (hename.symm.trans (hde.symm.trans hdname))
        exact hnew hname'
      · exact hold hnow

namespace Index

/-- Every entry of an index is reachable. -/
theorem mem_reachable_of_model {x : Index} {m : ModelNode} (h : m ∈ x.models) : m ∈ x.reachable :=
  mem_declaredFrom_of_mem h

/-- A reachable model that is no entry is a struct or an enum below one, under a name that is no key. -/
theorem mem_reachable {x : Index} {d : ModelNode} (h : d ∈ x.reachable) :
    d ∈ x.models ∨ (∃ m ∈ x.models, d ∈ m.descendants) ∧ d.kind ≠ .other ∧
      ∃ id, d.id = some id ∧ id ∉ x.keys :=
  mem_declaredFrom h

/-- The name of a struct or an enum below an entry is a key or the name of a reachable model. -/
theorem reachable_complete {x : Index} {m n : ModelNode} {name : String} (hm : m ∈ x.models)
    (hn : n ∈ m.descendants) (hkind : n.kind ≠ .other) (hid : n.id = some name) :
    name ∈ x.keys ∨ ∃ d ∈ x.reachable, d.kind ≠ .other ∧ d.id = some name :=
  declaredFrom_complete x.keys hm hn hkind hid

theorem reachable_subset_nodes {x : Index} {d : ModelNode} (h : d ∈ x.reachable) : d ∈ x.nodes := by
  rcases mem_reachable h with hm | ⟨⟨m, hm, hd⟩, -⟩
  · exact mem_nodes.2 ⟨d, hm, .inl rfl⟩
  · exact mem_nodes.2 ⟨m, hm, .inr hd⟩

/-! ### Names as keys -/

/-- A key is the name of its entry, which is reachable. -/
theorem exists_reachable_of_key {x : Index} (hx : x.KeyedByName) {key : String} (h : key ∈ x.keys) :
    ∃ d ∈ x.reachable, d.id = some key := by
  obtain ⟨p, hp, rfl⟩ := List.mem_map.1 h
  have hmodel : p.2 ∈ x.models := List.mem_map.2 ⟨p, hp, rfl⟩
  exact ⟨p.2, mem_reachable_of_model hmodel, hx p hp⟩

/-- The name of a struct or an enum anywhere in the index is the name of a reachable model. -/
theorem exists_reachable_of_declared {x : Index} (hx : x.KeyedByName) {n : ModelNode} {name : String}
    (hn : n ∈ x.nodes) (hkind : n.kind ≠ .other) (hid : n.id = some name) :
    ∃ d ∈ x.reachable, d.id = some name := by
  obtain ⟨m, hm, rfl | hdesc⟩ := mem_nodes.1 hn
  · exact ⟨n, mem_reachable_of_model hm, hid⟩
  · rcases reachable_complete hm hdesc hkind hid with hkey | ⟨d, hd, -, hname⟩
    · exact exists_reachable_of_key hx hkey
    · exact ⟨d, hd, hname⟩

/-- An entry is the only reachable model under its key. -/
theorem eq_of_reachable {x : Index} (hx : x.KeyedByName) {key : String} {d e : ModelNode}
    (hd : x.get? key = some d) (he : e ∈ x.reachable) (hid : e.id = some key) : e = d := by
  have hkey : key ∈ x.keys := List.mem_map.2 ⟨(key, d), get?_iff_mem.1 hd, rfl⟩
  rcases mem_reachable he with hmodel | ⟨-, -, id, hid', hnew⟩
  · obtain ⟨p, hp, rfl⟩ := List.mem_map.1 hmodel
    have hname : p.1 = key := Option.some.inj ((hx p hp).symm.trans hid)
    have hget : x.get? key = some p.2 := get?_iff_mem.2 (hname ▸ hp)
    exact Option.some.inj (hget.symm.trans hd)
  · obtain rfl : id = key := Option.some.inj (hid'.symm.trans hid)
    exact absurd hkey hnew

theorem exists_id_of_reachable {x : Index} (hx : x.KeyedByName) {d : ModelNode} (h : d ∈ x.reachable) :
    ∃ id, d.id = some id := by
  rcases mem_reachable h with hmodel | ⟨-, -, id, hid, -⟩
  · obtain ⟨p, hp, rfl⟩ := List.mem_map.1 hmodel
    exact ⟨p.1, hx p hp⟩
  · exact ⟨id, hid⟩

/-- No two reachable models share a name. -/
theorem nodup_reachable {x : Index} (hx : x.KeyedByName) : (x.reachable.map (·.id)).Nodup := by
  have hids : x.models.map (·.id) = x.keys.map some := by
    rw [models, keys, Keyed.keys, List.map_map, List.map_map]
    exact List.map_congr_left hx
  refine nodup_declaredFrom ?_ fun m hm => ?_
  · rw [hids]
    exact x.distinct.map fun _ _ => Option.some.inj
  · obtain ⟨p, hp, rfl⟩ := List.mem_map.1 hm
    exact ⟨p.1, List.mem_map.2 ⟨p, hp, rfl⟩, hx p hp⟩

end Index

end SchemaGo.Model
