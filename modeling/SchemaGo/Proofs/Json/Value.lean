import SchemaGo.Json.Raw
import SchemaGo.Proofs.Keyed

/-! Values as trees. A value whose objects have distinct keys, on every level, is the value of its document;
and the value of a document is such a value, no deeper than the room it was read in. -/

namespace SchemaGo.Json

/-! ### Readings of lists -/

section

variable {α β : Type} {f : β → Option α}

/-- A list is read back item by item. -/
theorem mapM_map_of_forall {g : α → β} {l : List α} (h : ∀ a ∈ l, f (g a) = some a) :
    (l.map g).mapM f = some l := by
  induction l with
  | nil => rfl
  | cons a r ih =>
    rw [List.forall_mem_cons] at h
    rw [List.map_cons, List.mapM_cons, h.1, ih h.2]
    rfl

/-- Every item of a list that is read is read from some part. -/
theorem exists_of_mapM {l : List β} {l' : List α} (h : l.mapM f = some l') :
    ∀ a ∈ l', ∃ b ∈ l, f b = some a := by
  induction l generalizing l' with
  | nil =>
    cases h
    simp
  | cons b r ih =>
    rw [List.mapM_cons, Option.bind_eq_bind, Option.bind_eq_some_iff] at h
    obtain ⟨a, ha, h⟩ := h
    rw [Option.bind_eq_bind, Option.bind_eq_some_iff] at h
    obtain ⟨as, has, ⟨⟩⟩ := h
    rw [List.forall_mem_cons]
    refine ⟨⟨b, by simp, ha⟩, fun a' ha' => ?_⟩
    obtain ⟨b', hb', hread⟩ := ih has a' ha'
    exact ⟨b', by simp [hb'], hread⟩

/-- The members of an object are read back one by one, and their keys if they are distinct. -/
theorem mapM_entries_of_forall {g : α → β} {l : List (String × α)} (h : ∀ p ∈ l, f (g p.2) = some p.2) :
    (l.map fun p => (p.1, g p.2)).mapM (fun p => (f p.2).map (p.1, ·)) = some l := by
  refine mapM_map_of_forall fun p hp => ?_
  rw [h p hp]
  rfl

theorem exists_of_mapM_entries {l : List (String × β)} {l' : List (String × α)}
    (h : l.mapM (fun p => (f p.2).map (p.1, ·)) = some l') : ∀ p ∈ l', ∃ b, f b = some p.2 := by
  intro p hp
  obtain ⟨q, -, hq⟩ := exists_of_mapM h p hp
  obtain ⟨a, ha, rfl⟩ := Option.map_eq_some_iff.1 hq
  exact ⟨q.2, ha⟩

end

namespace Value

/-- Induction over the parts of a value. -/
@[elab_as_elim]
theorem partInduction {P : Value → Prop} (null : P .null) (bool : ∀ b, P (.bool b))
    (number : ∀ x, P (.number x)) (string : ∀ s, P (.string s))
    (array : ∀ items, (∀ v ∈ items, P v) → P (.array items))
    (object : ∀ members, (∀ m ∈ members, P m.2) → P (.object members)) (v : Value) : P v :=
  match v with
  | .null => null
  | .bool b => bool b
  | .number x => number x
  | .string s => string s
  | .array items => array items fun v hv =>
    have := List.sizeOf_lt_of_mem hv
    partInduction null bool number string array object v
  | .object members => object members fun m hm =>
    have := List.sizeOf_lt_of_mem hm
    partInduction null bool number string array object m.2
termination_by sizeOf v
decreasing_by
  · simp only [Value.array.sizeOf_spec]
    omega
  · obtain ⟨k, v⟩ := m
    simp only [Value.object.sizeOf_spec, Prod.mk.sizeOf_spec] at *
    omega

/-! ### Numbers -/

mutual

/-- The numbers in a value, in the order of its text. -/
def numbers : Value → List Number
  | .number x => [x]
  | .array items => itemsNumbers items
  | .object members => membersNumbers members
  | _ => []

def itemsNumbers : List Value → List Number
  | [] => []
  | v :: r => numbers v ++ itemsNumbers r

def membersNumbers : List (String × Value) → List Number
  | [] => []
  | (_, v) :: r => numbers v ++ membersNumbers r

end

theorem numbers_array (items : List Value) : (array items).numbers = items.flatMap numbers := by
  rw [numbers]
  induction items with
  | nil => rfl
  | cons v r ih => rw [itemsNumbers, ih, List.flatMap_cons]

theorem numbers_object (members : List (String × Value)) :
    (object members).numbers = members.flatMap fun m => m.2.numbers := by
  rw [numbers]
  induction members with
  | nil => rfl
  | cons m r ih => rw [membersNumbers, ih, List.flatMap_cons]

/-! ### Documents of values -/

theorem rawItems_eq (items : List Value) : rawItems items = items.map raw := by
  induction items with
  | nil => rfl
  | cons v r ih => rw [rawItems, ih, List.map_cons]

theorem rawMembers_eq (members : List (String × Value)) :
    rawMembers members = members.map fun m => (some m.1, m.2.raw) := by
  induction members with
  | nil => rfl
  | cons m r ih => rw [rawMembers, ih, List.map_cons]

/-- No object in the value has two members of one key. -/
inductive DistinctKeys : Value → Prop where
  | null : DistinctKeys .null
  | bool (b : Bool) : DistinctKeys (.bool b)
  | number (x : Number) : DistinctKeys (.number x)
  | string (s : String) : DistinctKeys (.string s)
  | array {items : List Value} (parts : ∀ v ∈ items, v.DistinctKeys) : DistinctKeys (.array items)
  | object {members : List (String × Value)} (keys : Keyed.Distinct members)
      (parts : ∀ m ∈ members, m.2.DistinctKeys) : DistinctKeys (.object members)

end Value

namespace Raw

theorem itemsDepth_le_iff {items : List Raw} {room : Nat} :
    itemsDepth items ≤ room ↔ ∀ r ∈ items, r.depth ≤ room := by
  induction items with
  | nil => simp [itemsDepth]
  | cons r rest ih => rw [itemsDepth, Nat.max_le, ih, List.forall_mem_cons]

theorem membersDepth_le_iff {members : List (Option String × Raw)} {room : Nat} :
    membersDepth members ≤ room ↔ ∀ m ∈ members, m.2.depth ≤ room := by
  induction members with
  | nil => simp [membersDepth]
  | cons m rest ih => rw [membersDepth, Nat.max_le, ih, List.forall_mem_cons]

theorem entries?_rawMembers (members : List (String × Value)) :
    entries? (Value.rawMembers members) = some (members.map fun m => (m.1, m.2.raw)) := by
  have hmembers : Value.rawMembers members =
      (members.map fun m => (m.1, m.2.raw)).map fun p => (some p.1, p.2) := by
    rw [Value.rawMembers_eq, List.map_map]
    rfl
  rw [hmembers]
  exact mapM_map_of_forall fun _ _ => rfl

end Raw

namespace Value

theorem depth_array_le_iff {items : List Value} {room : Nat} :
    (array items).raw.depth ≤ room ↔ ∃ inner, room = inner + 1 ∧ ∀ v ∈ items, v.raw.depth ≤ inner := by
  have hinner (inner : Nat) : Raw.itemsDepth (rawItems items) ≤ inner ↔ ∀ v ∈ items, v.raw.depth ≤ inner := by
    rw [rawItems_eq, Raw.itemsDepth_le_iff, List.forall_mem_map]
  rw [raw, Raw.depth]
  constructor
  · intro h
    exact ⟨room - 1, by omega, (hinner _).1 (by omega)⟩
  · rintro ⟨inner, rfl, h⟩
    exact Nat.add_le_add_right ((hinner inner).2 h) 1

/-- Arrays of flat items are as deep as any array. -/
theorem depth_array_of_flat {α : Type} {write : α → Value} (flat : ∀ a, (write a).raw.depth = 0)
    (l : List α) {items : List Value} {room : Nat} (h : (array items).raw.depth ≤ room) :
    (array (l.map write)).raw.depth ≤ room := by
  obtain ⟨inner, rfl, -⟩ := depth_array_le_iff.1 h
  refine depth_array_le_iff.2 ⟨inner, rfl, ?_⟩
  rw [List.forall_mem_map]
  exact fun a _ => (flat a).symm ▸ Nat.zero_le inner

theorem depth_object_le_iff {members : List (String × Value)} {room : Nat} :
    (object members).raw.depth ≤ room ↔
      ∃ inner, room = inner + 1 ∧ ∀ m ∈ members, m.2.raw.depth ≤ inner := by
  have hinner (inner : Nat) :
      Raw.membersDepth (rawMembers members) ≤ inner ↔ ∀ m ∈ members, m.2.raw.depth ≤ inner := by
    rw [rawMembers_eq, Raw.membersDepth_le_iff, List.forall_mem_map]
  rw [raw, Raw.depth]
  constructor
  · intro h
    exact ⟨room - 1, by omega, (hinner _).1 (by omega)⟩
  · rintro ⟨inner, rfl, h⟩
    exact Nat.add_le_add_right ((hinner inner).2 h) 1

/-- A value is read back from its document. -/
theorem value?_raw {v : Value} (h : v.DistinctKeys) {room : Nat} (hroom : v.raw.depth ≤ room) :
    v.raw.value? room = some v := by
  induction h generalizing room with
  | null => rw [raw, Raw.value?]
  | bool b => rw [raw, Raw.value?]
  | number x => rw [raw, Raw.value?, Option.map_some]
  | string s => rw [raw, Raw.value?, Option.map_some]
  | array parts ih =>
    obtain ⟨inner, rfl, hinner⟩ := depth_array_le_iff.1 hroom
    rw [raw, Raw.value?, rawItems_eq, mapM_map_of_forall fun v hv => ih v hv (hinner v hv)]
    rfl
  | object keys parts ih =>
    obtain ⟨inner, rfl, hinner⟩ := depth_object_le_iff.1 hroom
    have hvalues := mapM_entries_of_forall fun m hm => ih m hm (hinner m hm)
    simp only [raw, Raw.value?, Raw.entries?_rawMembers, Option.bind_eq_bind, Option.bind_some, hvalues,
      (Keyed.ofList_eq_self_iff _).2 keys]
    rfl

/-- The value of a document has distinct keys and is no deeper than the room it was read in. -/
theorem distinctKeys_of_value? {room : Nat} {r : Raw} {v : Value} (h : r.value? room = some v) :
    v.DistinctKeys ∧ v.raw.depth ≤ room := by
  cases r with
  | null =>
    rw [Raw.value?] at h
    cases h
    exact ⟨.null, Nat.zero_le room⟩
  | bool b =>
    rw [Raw.value?] at h
    cases h
    exact ⟨.bool b, Nat.zero_le room⟩
  | number n =>
    rw [Raw.value?] at h
    obtain ⟨x, -, rfl⟩ := Option.map_eq_some_iff.1 h
    exact ⟨.number x, Nat.zero_le room⟩
  | string s =>
    rw [Raw.value?] at h
    obtain ⟨s, -, rfl⟩ := Option.map_eq_some_iff.1 h
    exact ⟨.string s, Nat.zero_le room⟩
  | array items =>
    cases room with
    | zero => cases h
    | succ room =>
      obtain ⟨values, hvalues, rfl⟩ := Option.map_eq_some_iff.1 h
      have hparts : ∀ v ∈ values, v.DistinctKeys ∧ v.raw.depth ≤ room := by
        intro v hv
        obtain ⟨r, -, hr⟩ := exists_of_mapM hvalues v hv
        exact distinctKeys_of_value? hr
      exact ⟨.array fun v hv => (hparts v hv).1,
        depth_array_le_iff.2 ⟨room, rfl, fun v hv => (hparts v hv).2⟩⟩
  | object members =>
    cases room with
    | zero => cases h
    | succ room =>
      simp only [Raw.value?, Option.bind_eq_bind, Option.bind_eq_some_iff] at h
      obtain ⟨entries, -, values, hvalues, hv⟩ := h
      cases hv
      have hparts : ∀ m ∈ Keyed.ofList values, m.2.DistinctKeys ∧ m.2.raw.depth ≤ room := by
        intro m hm
        obtain ⟨r, hr⟩ := exists_of_mapM_entries hvalues m (Keyed.mem_of_mem_ofList hm)
        exact distinctKeys_of_value? hr
      exact ⟨.object (Keyed.distinct_ofList values) fun m hm => (hparts m hm).1,
        depth_object_le_iff.2 ⟨room, rfl, fun m hm => (hparts m hm).2⟩⟩
termination_by room

end Value

end SchemaGo.Json
