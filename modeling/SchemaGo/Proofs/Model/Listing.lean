import SchemaGo.Proofs.Model.Reachable

/-! The list of reachable models. It consists of blocks, one for each entry in order: the entry, and the
nodes below it that are the first struct or enum of a name, unless the name is a key. Main statement: in
an index that insertions have built, every entry is listed once, no name is listed twice, and the name of
any struct or enum below an entry is listed, for the entry of that name if there is one and otherwise for
the first such node. -/

namespace SchemaGo.Model

/-- The node is a struct or an enum called `name`. -/
def ModelNode.declares (n : ModelNode) (name : String) : Bool :=
  n.kind ≠ .other ∧ n.id = some name

theorem ModelNode.declares_iff {n : ModelNode} {name : String} :
    n.declares name = true ↔ n.kind ≠ .other ∧ n.id = some name := by
  simp [declares]

/-! ### The nodes listed for one entry -/

theorem sublist_declaredIn (seen : List String) (l : List ModelNode) :
    (declaredIn seen l).1.Sublist l := by
  induction l generalizing seen with
  | nil => exact .slnil
  | cons n r ih =>
    simp only [declaredIn]
    split
    · split
      · exact (ih _).cons_cons n
      · exact (ih seen).cons n
    · exact (ih seen).cons n

/-- The nodes listed are those that are the first struct or enum of a name that was not seen. -/
theorem mem_declaredIn_iff {seen : List String} {l : List ModelNode} {n : ModelNode} :
    n ∈ (declaredIn seen l).1 ↔ ∃ name, name ∉ seen ∧ l.find? (·.declares name) = some n := by
  induction l generalizing seen with
  | nil => simp [declaredIn]
  | cons c r ih =>
    have hpassed : (∀ name, name ∉ seen → c.declares name = false) →
        (n ∈ (declaredIn seen r).1 ↔
          ∃ name, name ∉ seen ∧ (c :: r).find? (·.declares name) = some n) := by
      intro hc
      rw [ih]
      refine exists_congr fun name => and_congr_right fun hname => ?_
      rw [List.find?_cons_of_neg (by simp [hc name hname])]
    cases hid : c.id with
    | none =>
      simp only [declaredIn, hid]
      exact hpassed fun name _ => by simp [ModelNode.declares, hid]
    | some id =>
      by_cases hnew : c.kind ≠ .other ∧ id ∉ seen
      · simp only [declaredIn, hid, if_pos hnew, List.mem_cons, ih, not_or]
        constructor
        · rintro (rfl | ⟨name, ⟨hne, hname⟩, hfind⟩)
          · refine ⟨id, hnew.2, List.find?_cons_of_pos ?_⟩
            exact ModelNode.declares_iff.2 ⟨hnew.1, hid⟩
          · refine ⟨name, hname, ?_⟩
            rwa [List.find?_cons_of_neg (by simp [ModelNode.declares, hid, Ne.symm hne])]
        · rintro ⟨name, hname, hfind⟩
          by_cases hsame : name = id
          · have hdeclares : c.declares name = true :=
              ModelNode.declares_iff.2 ⟨hnew.1, hid.trans (congrArg some hsame.symm)⟩
            simp only [List.find?_cons, hdeclares] at hfind
            exact .inl (Option.some.inj hfind).symm
          · rw [List.find?_cons_of_neg (by simp [ModelNode.declares, hid, Ne.symm hsame])] at hfind
            exact .inr ⟨name, ⟨hsame, hname⟩, hfind⟩
      · simp only [declaredIn, hid, if_neg hnew]
        refine hpassed fun name hname => ?_
        by_contra hdeclares
        obtain ⟨hkind, hcid⟩ := ModelNode.declares_iff.1 (eq_true_of_ne_false hdeclares)
        obtain rfl : id = name := Option.some.inj (hid.symm.trans hcid)
        exact hnew ⟨hkind, hname⟩

/-- The names seen at the end are those seen before and those of the structs and enums. -/
theorem mem_declaredIn_seen_iff {seen : List String} {l : List ModelNode} {name : String} :
    name ∈ (declaredIn seen l).2 ↔ name ∈ seen ∨ ∃ n ∈ l, n.declares name = true := by
  constructor
  · intro h
    refine (mem_declaredIn_seen.1 h).imp_right ?_
    rintro ⟨d, hd, hid⟩
    obtain ⟨hmem, hkind, -⟩ := mem_declaredIn hd
    exact ⟨d, hmem, ModelNode.declares_iff.2 ⟨hkind, hid⟩⟩
  · rintro (h | ⟨n, hn, hdeclares⟩)
    · exact mem_declaredIn_seen.2 (.inl h)
    · obtain ⟨hkind, hid⟩ := ModelNode.declares_iff.1 hdeclares
      exact declaredIn_complete seen hn hkind hid

/-! ### Blocks -/

/-- The entries, each with the nodes below it that are listed. -/
def blocksFrom (seen : List String) : List ModelNode → List (ModelNode × List ModelNode)
  | [] => []
  | m :: r =>
    (m, (declaredIn seen m.descendants).1) :: blocksFrom (declaredIn seen m.descendants).2 r

theorem map_fst_blocksFrom (seen : List String) (l : List ModelNode) :
    (blocksFrom seen l).map (·.1) = l := by
  induction l generalizing seen with
  | nil => rfl
  | cons m r ih => simp [blocksFrom, ih]

theorem declaredFrom_eq_blocks (seen : List String) (l : List ModelNode) :
    declaredFrom seen l = (blocksFrom seen l).flatMap fun b => b.1 :: b.2 := by
  induction l generalizing seen with
  | nil => rfl
  | cons m r ih => simp [declaredFrom, blocksFrom, ih]

/-- When an entry is come to, the names in front of it have been seen. -/
theorem blocksFrom_split {seen : List String} {l : List ModelNode}
    {before behind : List (ModelNode × List ModelNode)} {m : ModelNode} {nested : List ModelNode}
    (h : blocksFrom seen l = before ++ (m, nested) :: behind) :
    ∃ seen', nested = (declaredIn seen' m.descendants).1 ∧ ∀ name, name ∈ seen' ↔
      name ∈ seen ∨ ∃ b ∈ before, ∃ c ∈ b.1.descendants, c.declares name = true := by
  induction before generalizing seen l with
  | nil =>
    cases l with
    | nil => cases h
    | cons k r =>
      simp only [blocksFrom, List.nil_append, List.cons.injEq, Prod.mk.injEq] at h
      obtain ⟨⟨rfl, rfl⟩, -⟩ := h
      exact ⟨seen, rfl, by simp⟩
  | cons b before ih =>
    cases l with
    | nil => cases h
    | cons k r =>
      simp only [blocksFrom, List.cons_append, List.cons.injEq] at h
      obtain ⟨rfl, hrest⟩ := h
      obtain ⟨seen', hnested, hseen⟩ := ih hrest
      refine ⟨seen', hnested, fun name => ?_⟩
      simp only [hseen, mem_declaredIn_seen_iff, List.mem_cons, exists_eq_or_imp, or_assoc]

namespace Index

/-- The reachable models of an index in blocks, one for each entry in order. -/
structure Listing (x : Index) (blocks : List (ModelNode × List ModelNode)) : Prop where
  entries_eq : blocks.map (·.1) = x.models
  reachable_eq : x.reachable = blocks.flatMap fun b => b.1 :: b.2
  /-- Behind an entry the nodes below it are listed, in order, that are the first struct or enum of a
  name which is no key. -/
  nested_iff : ∀ before m nested behind, blocks = before ++ (m, nested) :: behind →
    nested.Sublist m.descendants ∧ ∀ n, n ∈ nested ↔ ∃ name, name ∉ x.keys ∧
      (∀ b ∈ before, ∀ c ∈ b.1.descendants, c.declares name = false) ∧
      m.descendants.find? (·.declares name) = some n

theorem exists_listing (x : Index) : ∃ blocks, x.Listing blocks := by
  refine ⟨blocksFrom x.keys x.models, map_fst_blocksFrom _ _, declaredFrom_eq_blocks _ _, ?_⟩
  intro before m nested behind h
  obtain ⟨seen, rfl, hseen⟩ := blocksFrom_split h
  refine ⟨sublist_declaredIn _ _, fun n => ?_⟩
  rw [mem_declaredIn_iff]
  refine exists_congr fun name => ?_
  rw [hseen, not_or, and_assoc]
  refine and_congr_right fun _ => and_congr_left fun _ => ?_
  simp

namespace Listing

variable {x : Index} {blocks : List (ModelNode × List ModelNode)}

theorem nested_not_key (h : x.Listing blocks) {b : ModelNode × List ModelNode} (hb : b ∈ blocks)
    {n : ModelNode} (hn : n ∈ b.2) : ∃ name, n.id = some name ∧ name ∉ x.keys := by
  obtain ⟨before, behind, hsplit⟩ := List.append_of_mem hb
  obtain ⟨name, hkey, -, hfind⟩ := ((h.nested_iff before b.1 b.2 behind hsplit).2 n).1 hn
  have hdeclares := List.find?_some hfind
  exact ⟨name, (ModelNode.declares_iff.1 hdeclares).2, hkey⟩

/-- The reachable models whose names are keys are the entries. -/
theorem filter_keys (h : x.Listing blocks) (hx : x.KeyedByName) :
    x.reachable.filter (fun d => d.id.any (· ∈ x.keys)) = x.models := by
  have hblock : ∀ b ∈ blocks, (b.1 :: b.2).filter (fun d => d.id.any (· ∈ x.keys)) = [b.1] := by
    intro b hb
    have hmodel : b.1 ∈ x.models := h.entries_eq ▸ List.mem_map.2 ⟨b, hb, rfl⟩
    obtain ⟨p, hp, hpb⟩ := List.mem_map.1 hmodel
    have hkey : p.1 ∈ x.keys := List.mem_map.2 ⟨p, hp, rfl⟩
    have hid : b.1.id = some p.1 := hpb ▸ hx p hp
    have hnested : b.2.filter (fun d => d.id.any (· ∈ x.keys)) = [] := by
      refine List.filter_eq_nil_iff.2 fun n hn => ?_
      obtain ⟨name, hname, hnew⟩ := h.nested_not_key hb hn
      simp [hname, hnew]
    rw [List.filter_cons_of_pos (by simp [hid, hkey]), hnested]
  rw [h.reachable_eq, List.filter_flatMap, List.flatMap_congr hblock, ← h.entries_eq,
    List.map_eq_flatMap]

/-- The first struct or enum of a name that is no key is reachable. -/
theorem mem_of_find? (h : x.Listing blocks) {name : String} (hkey : name ∉ x.keys) {d : ModelNode}
    (hfind : (x.models.flatMap (·.descendants)).find? (·.declares name) = some d) : d ∈ x.reachable := by
  rw [List.find?_flatMap, List.findSome?_eq_some_iff] at hfind
  obtain ⟨front, m, rest, hmodels, hd, hfront⟩ := hfind
  rw [← h.entries_eq, List.map_eq_append_iff] at hmodels
  obtain ⟨before, behind, hblocks, rfl, hbehind⟩ := hmodels
  obtain ⟨b, behind, rfl, rfl, -⟩ := List.map_eq_cons_iff.1 hbehind
  have hnested : d ∈ b.2 := by
    refine ((h.nested_iff before b.1 b.2 behind hblocks).2 d).2 ⟨name, hkey, fun k hk c hc => ?_, hd⟩
    have hnone := hfront k.1 (List.mem_map.2 ⟨k, hk, rfl⟩)
    simpa using List.find?_eq_none.1 hnone c hc
  rw [h.reachable_eq, hblocks]
  exact List.mem_flatMap.2 ⟨b, by simp, List.mem_cons_of_mem _ hnested⟩

end Listing

/-! ### Main result -/

theorem filter_eq_singleton {α β : Type} [DecidableEq β] {f : α → β} {l : List α}
    (h : (l.map f).Nodup) {a : α} (ha : a ∈ l) : l.filter (fun b => f b = f a) = [a] := by
  obtain ⟨before, behind, rfl⟩ := List.append_of_mem ha
  simp only [List.map_append, List.map_cons, List.nodup_append, List.nodup_cons, List.mem_cons] at h
  obtain ⟨-, ⟨hbehind, -⟩, hbefore⟩ := h
  have hleft : before.filter (fun b => f b = f a) = [] := by
    refine List.filter_eq_nil_iff.2 fun b hb => ?_
    simpa using hbefore (f b) (List.mem_map.2 ⟨b, hb, rfl⟩) (f a) (.inl rfl)
  have hright : behind.filter (fun b => f b = f a) = [] := by
    refine List.filter_eq_nil_iff.2 fun b hb => ?_
    simpa using fun hsame : f b = f a => hbehind (List.mem_map.2 ⟨b, hb, hsame⟩)
  rw [List.filter_append, hleft, List.filter_cons_of_pos (by simp), hright, List.nil_append]

/-- What holds of the list of reachable models. -/
structure Listed (x : Index) : Prop where
  /-- It consists of the entries in order, each followed by nodes below it, and of nothing else. -/
  blocks : ∃ blocks, x.Listing blocks
  /-- The models whose names are keys are the entries, in order. -/
  entries_once : x.reachable.filter (fun d => d.id.any (· ∈ x.keys)) = x.models
  names_once : (x.reachable.map (·.id)).Nodup
  /-- The name of a struct or an enum below an entry belongs to one model: the entry of that name if there
  is one, and otherwise the first such node. -/
  declared_once : ∀ m ∈ x.models, ∀ n ∈ m.descendants, ∀ name, n.declares name →
    ∃ d, x.reachable.filter (·.id = some name) = [d] ∧
      (x.get? name <|> (x.models.flatMap (·.descendants)).find? (·.declares name)) = some d

/-- The index that some insertions build has the names of the models as keys, in the order of their first
insertions, with the last model of each name, and its reachable models are listed as they should be. -/
theorem reachable_exact (l : List ModelNode) :
    (ofModels l).keys = (l.filterMap (·.id)).eraseDups ∧
      (∀ key, (ofModels l).get? key = l.reverse.find? (·.id = some key)) ∧ (ofModels l).Listed := by
  have hx := keyedByName_ofModels l
  obtain ⟨blocks, hlisting⟩ := (ofModels l).exists_listing
  refine ⟨keys_ofModels l, get?_ofModels l, ⟨blocks, hlisting⟩, hlisting.filter_keys hx,
    nodup_reachable hx, fun m hm n hn name hdeclares => ?_⟩
  cases hget : (ofModels l).get? name with
  | some d =>
    have hentry := get?_iff_mem.1 hget
    have hd : d ∈ (ofModels l).reachable := mem_reachable_of_model (List.mem_map.2 ⟨_, hentry, rfl⟩)
    have hid : d.id = some name := hx _ hentry
    exact ⟨d, hid ▸ filter_eq_singleton (nodup_reachable hx) hd, rfl⟩
  | none =>
    have hkey : name ∉ (ofModels l).keys := Keyed.get?_eq_none_iff.1 hget
    have hsome : ((ofModels l).models.flatMap (·.descendants)).find? (·.declares name) ≠ none := by
      rw [ne_eq, List.find?_eq_none]
      exact fun hnone => hnone n (List.mem_flatMap.2 ⟨m, hm, hn⟩) hdeclares
    obtain ⟨d, hfind⟩ := Option.ne_none_iff_exists'.1 hsome
    have hd := hlisting.mem_of_find? hkey hfind
    have hdeclared := List.find?_some hfind
    have hid : d.id = some name := (ModelNode.declares_iff.1 hdeclared).2
    exact ⟨d, hid ▸ filter_eq_singleton (nodup_reachable hx) hd, by rw [hfind]; rfl⟩

end Index

end SchemaGo.Model
