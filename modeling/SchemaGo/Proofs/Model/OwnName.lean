import SchemaGo.Proofs.Model.Insertion
import SchemaGo.Proofs.Model.Place
import SchemaGo.Proofs.Model.Settled

/-! A model named on its own and within its index. Both start from the names in the index, but within it
the names claimed for the entries before are taken as well. Claims come to the same names against more
taken names as long as none of them is taken there, and so do claims whose names are their places. Main
statement: the two namings of an entry agree exactly if no name that the entry gives on its own stands in
an entry before it. -/

namespace SchemaGo.Model

namespace ModelNode

/-! ### Claims against other taken names -/

theorem claimName_unsettled {n : ModelNode} (h : ¬ n.Settled) (place : String) (taken : List String) :
    n.id = none ∧ claimName place n taken = (some (freeName taken place), freeName taken place :: taken) := by
  obtain ⟨anonymous, needs⟩ : n.id = none ∧ n.needsDeclaration = true := by
    simpa [Settled] using h
  exact ⟨anonymous, by simp [claimName, anonymous, needs]⟩

/-- The names that anonymous nodes at places come to, each behind its place. -/
def newNames (l : List (String × ModelNode)) (ids : List (Option String)) : List (String × String) :=
  (l.zip ids).filterMap fun ((place, n), id) => if n.id.isNone then id.map (place, ·) else none

theorem newNames_settled {n : ModelNode} (h : n.Settled) (place : String) (l : List (String × ModelNode))
    (taken : List String) :
    newNames ((place, n) :: l) (claimNames ((place, n) :: l) taken).1 =
      newNames l (claimNames l taken).1 := by
  cases hid : n.id <;> simp [newNames, claimNames, claimName_settled h, hid]

theorem newNames_unsettled {n : ModelNode} (h : ¬ n.Settled) (place : String)
    (l : List (String × ModelNode)) (taken : List String) :
    newNames ((place, n) :: l) (claimNames ((place, n) :: l) taken).1 =
      (place, freeName taken place) ::
        newNames l (claimNames l (freeName taken place :: taken)).1 := by
  obtain ⟨anonymous, hclaim⟩ := claimName_unsettled h place taken
  simp [newNames, claimNames, hclaim, anonymous]

theorem newNames_fresh (l : List (String × ModelNode)) (taken : List String) :
    ∀ p ∈ newNames l (claimNames l taken).1, p.2 ∉ taken := by
  induction l generalizing taken with
  | nil => simp [newNames]
  | cons q l ih =>
    obtain ⟨place, n⟩ := q
    by_cases h : n.Settled
    · rw [newNames_settled h]
      exact ih taken
    · rw [newNames_unsettled h]
      refine List.forall_mem_cons.2 ⟨freeName_not_mem taken place, fun p hp hmem => ?_⟩
      exact ih _ p hp (List.mem_cons_of_mem _ hmem)

/-- Claims come to the same names against other taken names if these hold none of the names, and if they
are more or the names are their places. -/
theorem claimNames_congr {l : List (String × ModelNode)} {taken taken' : List String}
    (free : ∀ p ∈ newNames l (claimNames l taken).1, p.2 ∉ taken')
    (h : taken ⊆ taken' ∨ ∀ p ∈ newNames l (claimNames l taken).1, p.2 = p.1) :
    (claimNames l taken').1 = (claimNames l taken).1 := by
  induction l generalizing taken taken' with
  | nil => rfl
  | cons q l ih =>
    obtain ⟨place, n⟩ := q
    by_cases hn : n.Settled
    · rw [newNames_settled hn] at free h
      simp only [claimNames, claimName_settled hn, ih free h]
    · have hfresh := newNames_fresh l (freeName taken place :: taken)
      rw [newNames_unsettled hn] at free h
      obtain ⟨hchosen, hlater⟩ := List.forall_mem_cons.1 free
      have hsame : freeName taken' place = freeName taken place := by
        rcases h with hsub | hplaces
        · exact freeName_of_subset hsub hchosen
        · have hplace : freeName taken place = place := (List.forall_mem_cons.1 hplaces).1
          rw [hplace, freeName_eq_self_iff, ← hplace]
          exact hchosen
      have hrest : (claimNames l (freeName taken place :: taken')).1 =
          (claimNames l (freeName taken place :: taken)).1 := by
        refine ih (fun p hp hmem => ?_) ?_
        · rcases List.mem_cons.1 hmem with heq | hmem
          · exact hfresh p hp (by simp [heq])
          · exact hlater p hp hmem
        · exact h.imp (fun hsub => List.cons_subset_cons _ hsub)
            fun hplaces => (List.forall_mem_cons.1 hplaces).2
      simp only [claimNames, (claimName_unsettled hn place _).2, hsame, hrest]

/-! ### Models against other taken names -/

/-- The names that the nodes below `n` gained in `m`, each behind its place. -/
def gainedAt (context : String) (n m : ModelNode) : List (String × String) :=
  newNames ((placesBelow context m).zip n.descendants) (m.descendants.map (·.id))

theorem map_snd_newNames {places : List String} {l l' : List ModelNode}
    (h : places.length = l.length) (h' : l.length = l'.length) :
    (newNames (places.zip l) (l'.map (·.id))).map (·.2) = gained l l' := by
  induction places generalizing l l' with
  | nil =>
    obtain rfl : l = [] := by simpa using h.symm
    rfl
  | cons place places ih =>
    obtain ⟨n, l, rfl⟩ := List.exists_cons_of_length_eq_add_one h.symm
    obtain ⟨m, l', rfl⟩ := List.exists_cons_of_length_eq_add_one h'.symm
    have hrest := ih (by simpa using h) (by simpa using h')
    simp only [newNames, gained] at hrest ⊢
    cases hn : n.id <;> cases hm : m.id <;> simpa [hn, hm] using hrest

theorem map_snd_gainedAt (context : String) {n m : ModelNode} (h : m.unnamed = n.unnamed) :
    (gainedAt context n m).map (·.2) = gained n.descendants m.descendants := by
  have hlength := length_descendants_eq h
  exact map_snd_newNames (by rw [length_placesBelow, hlength]) hlength.symm

theorem nameBelow_congr {context : String} {n : ModelNode} {taken taken' : List String}
    (free : ∀ a ∈ gained n.descendants (nameBelow context n taken).1.descendants, a ∉ taken')
    (h : taken ⊆ taken' ∨ ∀ p ∈ gainedAt context n (nameBelow context n taken).1, p.2 = p.1) :
    (nameBelow context n taken').1 = (nameBelow context n taken).1 := by
  obtain ⟨hid, hunnamed, hnames⟩ :=
    nameBelow_eq_iff.1 (rfl : nameBelow context n taken = ((nameBelow context n taken).1, _))
  rw [← map_snd_gainedAt context hunnamed, List.forall_mem_map] at free
  have hids : (claimNames _ taken).1 = (nameBelow context n taken).1.descendants.map (·.id) :=
    congrArg Prod.fst hnames
  rw [gainedAt, ← hids] at free h
  have hsame := claimNames_congr free h
  have hclaimed : Claimed context n (nameBelow context n taken).1 taken' _ :=
    ⟨hid, hunnamed, Prod.ext (hsame.trans hids) rfl⟩
  rw [nameBelow_eq_iff.2 hclaimed]

/-- A model is named alike against other taken names if these hold none of the names it gives, and if
they are more or the names are their places. -/
theorem nameNested_congr {n : ModelNode} {taken taken' : List String}
    (free : ∀ a ∈ gained n.descendants (n.nameNested taken).1.descendants, a ∉ taken')
    (h : taken ⊆ taken' ∨ ∀ id, n.id = some id →
      ∀ p ∈ gainedAt id n (n.nameNested taken).1, p.2 = p.1) :
    (n.nameNested taken').1 = (n.nameNested taken).1 := by
  cases hid : n.id with
  | none => simp [nameNested, hid]
  | some id =>
    simp only [nameNested, hid] at free h ⊢
    have hfresh := (namingRun_nameBelow id n (id :: taken)).gained_fresh.2
    refine nameBelow_congr (fun a ha hmem => ?_) ?_
    · rcases List.mem_cons.1 hmem with rfl | hmem
      · exact hfresh a ha (by simp)
      · exact free a ha hmem
    · exact h.imp (fun hsub => List.cons_subset_cons _ hsub) fun hplaces => hplaces id rfl

/-- A model keeps its name, so the names it gives are those below it. -/
theorem gained_nameNested (n : ModelNode) (taken : List String) :
    gained (n :: n.descendants) ((n.nameNested taken).1 :: (n.nameNested taken).1.descendants) =
      gained n.descendants (n.nameNested taken).1.descendants := by
  have hid := (modelNamed_nameNested n taken).id_eq
  cases hn : n.id <;> simp [gained, hid, hn]

/-- The names of nodes that have been named are those they had and those they gained. -/
theorem filterMap_id_perm {l l' : List ModelNode} (h : List.Forall₂ NodeKept l l') :
    (l'.filterMap (·.id)).Perm (l.filterMap (·.id) ++ gained l l') := by
  induction h with
  | nil => rfl
  | @cons n m l l' hnm _ ih =>
    cases hn : n.id with
    | none =>
      cases hm : m.id with
      | none => simpa [gained, hn, hm] using ih
      | some b =>
        simp only [gained, List.zip_cons_cons, List.filterMap_cons, hn, hm, Option.isNone_none, if_true]
        exact (ih.cons b).trans List.perm_middle.symm
    | some a => simpa [gained, hn, hnm.id_eq a hn] using ih

/-- What is taken after a model has been named is what was taken before and the names in it. -/
theorem mem_taken_nameNested {n : ModelNode} {taken : List String} (h : ∀ name ∈ n.ids, name ∈ taken)
    {a : String} :
    a ∈ (n.nameNested taken).2 ↔ a ∈ taken ∨ a ∈ (n.nameNested taken).1.ids := by
  obtain ⟨-, -, htaken⟩ := nameNested_fresh n taken
  have hperm := filterMap_id_perm (modelNamed_nameNested n taken).nodes
  rw [htaken, ids, hperm.mem_iff]
  simp only [List.mem_append, List.mem_reverse]
  constructor
  · rintro ((hnew | hown) | hold)
    · exact .inr (.inr hnew)
    · exact .inl (h a (List.mem_filterMap.2 ⟨n, by simp, by simpa using hown⟩))
    · exact .inl hold
  · rintro (hold | hin | hnew)
    · exact .inr hold
    · exact .inr (h a hin)
    · exact .inl (.inl hnew)

end ModelNode

namespace Index

open ModelNode (gained gained_nameNested mem_taken_nameNested nameNested_congr nameNested_fresh)

/-! ### Entries within an index -/

/-- The names taken after some entries have been named. -/
def takenAfter : List (String × ModelNode) → List String → List String
  | [], taken => taken
  | (_, m) :: r, taken => takenAfter r (m.nameNested taken).2

theorem nameModels_append (l r : List (String × ModelNode)) (taken : List String) :
    nameModels (l ++ r) taken = nameModels l taken ++ nameModels r (takenAfter l taken) := by
  induction l generalizing taken with
  | nil => rfl
  | cons p l ih => simp [nameModels, takenAfter, ih]

theorem mem_takenAfter {l : List (String × ModelNode)} {taken : List String}
    (h : ∀ p ∈ l, ∀ name ∈ p.2.ids, name ∈ taken) {a : String} :
    a ∈ takenAfter l taken ↔ a ∈ taken ∨ ∃ q ∈ nameModels l taken, a ∈ q.2.ids := by
  induction l generalizing taken with
  | nil => simp [takenAfter, nameModels]
  | cons p r ih =>
    obtain ⟨key, m⟩ := p
    obtain ⟨hm, hr⟩ := List.forall_mem_cons.1 h
    have hgrown : ∀ p ∈ r, ∀ name ∈ p.2.ids, name ∈ (m.nameNested taken).2 := fun p hp name hname =>
      (mem_taken_nameNested hm).2 (.inl (hr p hp name hname))
    simp only [takenAfter, nameModels, ih hgrown, mem_taken_nameNested hm, List.mem_cons,
      exists_eq_or_imp, or_assoc]

/-- The names in the entries in front of a key. -/
def idsBefore (x : Index) (key : String) : List String :=
  (x.entries.takeWhile (·.1 ≠ key)).flatMap (·.2.ids)

/-- The names that a model gives to the nodes below it when it is named on its own. -/
def ownNames (x : Index) (m : ModelNode) : List String :=
  gained m.descendants (x.nameNested m).descendants

theorem ownNames_fresh (x : Index) (m : ModelNode) :
    (x.ownNames m).Nodup ∧ ∀ a ∈ x.ownNames m, a ∉ x.ids := by
  obtain ⟨hnodup, hfree, -⟩ := nameNested_fresh m x.ids
  rw [gained_nameNested] at hnodup hfree
  exact ⟨hnodup, hfree⟩

theorem ids_subset {x : Index} {p : String × ModelNode} (h : p ∈ x.entries) : p.2.ids ⊆ x.ids := by
  intro a ha
  exact List.mem_flatMap.2 ⟨p.2, List.mem_map.2 ⟨p, h, rfl⟩, ha⟩

/-- An entry is named on its own as it is within the index exactly if no name that it gives on its own
stands in an entry before it. -/
theorem named_alone_iff (x : Index) {key : String} {m : ModelNode} (hm : x.get? key = some m) :
    x.withContextNames.get? key = some (x.nameNested m) ↔
      ∀ name ∈ x.ownNames m, name ∉ x.withContextNames.idsBefore key := by
  obtain ⟨before, behind, hentries, hkey⟩ := Keyed.exists_split_of_get? hm
  let taken := takenAfter before x.ids
  have hnamed : x.withContextNames.entries = nameModels before x.ids ++
      (key, (m.nameNested taken).1) :: nameModels behind (m.nameNested taken).2 := by
    change nameModels x.entries x.ids = _
    rw [hentries, nameModels_append]
    rfl
  have hkeys : key ∉ Keyed.keys (nameModels before x.ids) := by
    rwa [keys_nameModels]
  have hget : x.withContextNames.get? key = some (m.nameNested taken).1 := by
    rw [get?, hnamed, Keyed.get?_append_of_not_mem hkeys]
    simp [Keyed.get?]
  have hbefore : x.withContextNames.idsBefore key = (nameModels before x.ids).flatMap (·.2.ids) := by
    have hne : ∀ q ∈ nameModels before x.ids, (q.1 ≠ key : Bool) = true := fun q hq => by
      simpa using fun h : q.1 = key => hkeys (List.mem_map.2 ⟨q, hq, h⟩)
    rw [idsBefore, hnamed, List.takeWhile_append_of_pos hne]
    simp
  have htaken : ∀ a, a ∈ taken ↔ a ∈ x.ids ∨ a ∈ x.withContextNames.idsBefore key := by
    intro a
    have hids : ∀ p ∈ before, ∀ name ∈ p.2.ids, name ∈ x.ids := fun p hp _ hname =>
      ids_subset (hentries ▸ List.mem_append_left _ hp) hname
    rw [mem_takenAfter hids, hbefore, List.mem_flatMap]
  rw [hget, Option.some.injEq]
  constructor
  · intro hsame name hname hin
    obtain ⟨-, hfree, -⟩ := nameNested_fresh m taken
    rw [gained_nameNested, hsame] at hfree
    exact hfree name hname ((htaken name).2 (.inr hin))
  · intro hapart
    refine nameNested_congr (fun a ha hmem => ?_) (.inl fun a ha => (htaken a).2 (.inl ha))
    rcases (htaken a).1 hmem with hold | hin
    · exact (x.ownNames_fresh m).2 a ha hold
    · exact hapart a ha hin

/-! ### Entries whose names cross -/

/-- An object that holds an enum without a name under `key`. -/
def marked (id key : String) : ModelNode where
  id := some id
  type := some (.single .object)
  properties := [(key, { enumValues := some [.string "x"] })]

/-- Both entries call their enum `a_b_c` on their own. -/
def crossed : Index :=
  .ofEntries [("a", marked "a" "b_c"), ("a_b", marked "a_b" "c")]

theorem named_alone_first :
    crossed.get? "a" = some (marked "a" "b_c") ∧
      crossed.withContextNames.get? "a" = some (crossed.nameNested (marked "a" "b_c")) := by
  have hm : crossed.get? "a" = some (marked "a" "b_c") := rfl
  exact ⟨hm, (named_alone_iff crossed hm).2 (by decide)⟩

/-- Every entry is named on its own as it is within the index. -/
def NamesAlone (x : Index) : Prop :=
  ∀ key m, x.get? key = some m → x.withContextNames.get? key = some (x.nameNested m)

/-- Within the index the second entry calls its enum `a_b_c2`. -/
theorem crossed_not_alone : ¬ NamesAlone crossed := by
  intro h
  have hsame := h "a_b" (marked "a_b" "c") rfl
  have hids : (crossed.withContextNames.get? "a_b").map (·.ids) =
      some (crossed.nameNested (marked "a_b" "c")).ids := by rw [hsame]; rfl
  exact absurd hids (by decide)

end Index

end SchemaGo.Model
