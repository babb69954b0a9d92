import SchemaGo.Json.Decoder
import SchemaGo.Proofs.Json.Parser

/-! Readers of documents against writers of values. A reader reads a thing back if it reads it from what is
written for it, given room for that. What it yields is no deeper, written again, than the room it had. Both
hold of lists and of the fields of a record if they hold of the parts. -/

namespace SchemaGo.Json

namespace Value

/-- The members of an object for fields that may be absent. -/
def fieldMembers (fields : List (String × Option Value)) : List (String × Value) :=
  fields.filterMap fun f => f.2.map (f.1, ·)

variable {fields : List (String × Option Value)}

theorem keys_fieldMembers_sublist : (Keyed.keys (fieldMembers fields)).Sublist (Keyed.keys fields) := by
  induction fields with
  | nil => exact .refl _
  | cons f r ih =>
    obtain ⟨key, value⟩ := f
    cases value with
    | none => exact ih.cons key
    | some v => exact ih.cons_cons key

theorem distinct_fieldMembers (h : Keyed.Distinct fields) : Keyed.Distinct (fieldMembers fields) :=
  h.sublist keys_fieldMembers_sublist

theorem mem_fieldMembers {key : String} {v : Value} :
    (key, v) ∈ fieldMembers fields ↔ (key, some v) ∈ fields := by
  rw [fieldMembers, List.mem_filterMap]
  constructor
  · rintro ⟨⟨_, value⟩, hf, hv⟩
    obtain ⟨w, rfl, heq⟩ := Option.map_eq_some_iff.1 hv
    cases heq
    exact hf
  · exact fun hf => ⟨_, hf, rfl⟩

/-- Every field is found under its key. -/
theorem get?_fieldMembers (h : Keyed.Distinct fields) {f : String × Option Value} (hf : f ∈ fields) :
    Keyed.get? (fieldMembers fields) f.1 = f.2 := by
  obtain ⟨key, value⟩ := f
  cases value with
  | some v => exact Keyed.get?_of_mem (distinct_fieldMembers h) (mem_fieldMembers.2 hf)
  | none =>
    rw [Keyed.get?_eq_none_iff]
    intro hkey
    obtain ⟨⟨_, v⟩, hv, rfl⟩ := List.mem_map.1 hkey
    have hfirst := Keyed.get?_of_mem h hf
    rw [Keyed.get?_of_mem h (mem_fieldMembers.1 hv)] at hfirst
    cases hfirst

end Value

namespace Decoder

/-- A record is read back from the object of its fields. -/
theorem record_fieldMembers {fields : List (String × Option Value)} (h : Keyed.Distinct fields)
    (room : Nat) :
    record (Keyed.keys fields) (room + 1) (Value.object (Value.fieldMembers fields)).raw =
      some (room, fields.map fun f => f.2.map Value.raw) := by
  have hentries := Raw.entries?_rawMembers (Value.fieldMembers fields)
  have hnodup : (Keyed.keys (((Value.fieldMembers fields).map fun m => (m.1, m.2.raw)).filter
      (·.1 ∈ Keyed.keys fields))).Nodup := by
    refine List.Nodup.sublist (List.filter_sublist.map _) ?_
    simpa [Keyed.keys, Keyed.Distinct, Function.comp_def] using Value.distinct_fieldMembers h
  have hfields : (Keyed.keys fields).map
      (Keyed.get? ((Value.fieldMembers fields).map fun m => (m.1, m.2.raw))) =
        fields.map fun f => f.2.map Value.raw := by
    rw [Keyed.keys, List.map_map]
    refine List.map_congr_left fun f hf => ?_
    rw [Function.comp_apply, Keyed.get?_map, Value.get?_fieldMembers h hf]
  simp only [Value.raw, record, hentries, Option.bind_eq_bind, Option.bind_some, if_pos hnodup, hfields]
  rfl

/-- A record is read in one room less. -/
theorem record_eq_some {names : List String} {room inner : Nat} {r : Raw} {fields : List (Option Raw)}
    (h : record names room r = some (inner, fields)) : room = inner + 1 := by
  unfold record at h
  split at h
  · obtain ⟨entries, -, h⟩ := Option.bind_eq_some_iff.1 h
    split at h
    · cases h
      rfl
    · cases h
  · split at h
    · cases h
      rfl
    · cases h
  · cases h

/-! ### Reading back -/

section

variable {α : Type}

/-- The thing is read from what is written for it, if there is room. -/
def ReadsBack (d : Decoder α) (write : α → Value) (a : α) : Prop :=
  ∀ room, (write a).raw.depth ≤ room → d room (write a).raw = some a

/-- What is read in some room is valid, and no deeper than the room when it is written. -/
def Yields (d : Decoder α) (write : α → Value) (Valid : α → Prop) (room : Nat) : Prop :=
  ∀ r a, d room r = some a → Valid a ∧ (write a).raw.depth ≤ room

theorem readsBack_string (s : String) : ReadsBack string .string s :=
  fun _ _ => rfl

theorem yields_string (room : Nat) : Yields string .string (fun _ => True) room := by
  intro r s h
  cases r with
  | string s => exact ⟨trivial, Nat.zero_le room⟩
  | _ => cases h

theorem readsBack_value {v : Value} (h : v.DistinctKeys) : ReadsBack Raw.value? (fun v => v) v :=
  fun _ => Value.value?_raw h

theorem yields_value (room : Nat) : Yields Raw.value? (fun v => v) Value.DistinctKeys room :=
  fun _ _ => Value.distinctKeys_of_value?

variable {d : Decoder α} {write : α → Value} {Valid : α → Prop}

theorem ReadsBack.list {l : List α} (h : ∀ a ∈ l, ReadsBack d write a) :
    ReadsBack (list d) (fun l => .array (l.map write)) l := by
  intro room hroom
  obtain ⟨inner, rfl, hinner⟩ := Value.depth_array_le_iff.1 hroom
  rw [List.forall_mem_map] at hinner
  rw [Value.raw, Value.rawItems_eq, List.map_map]
  exact mapM_map_of_forall fun a ha => h a ha inner (hinner a ha)

theorem Yields.list {room : Nat} (h : ∀ inner < room, Yields d write Valid inner) :
    Yields (list d) (fun l => .array (l.map write)) (fun l => ∀ a ∈ l, Valid a) room := by
  intro r l hl
  cases room with
  | zero => cases r <;> cases hl
  | succ room =>
    cases r with
    | array items =>
      have hparts : ∀ a ∈ l, Valid a ∧ (write a).raw.depth ≤ room := by
        intro a ha
        obtain ⟨r, -, hr⟩ := exists_of_mapM hl a ha
        exact h room (Nat.lt_succ_self room) r a hr
      refine ⟨fun a ha => (hparts a ha).1, Value.depth_array_le_iff.2 ⟨room, rfl, ?_⟩⟩
      rw [List.forall_mem_map]
      exact fun a ha => (hparts a ha).2
    | _ => cases hl

end

/-! ### Fields -/

section

variable {α : Type} {l : List (String × Option Value)} {i room : Nat} {key : String}

theorem field_rawFields {o : Option Value} (hi : l[i]? = some (key, o)) (fallback : α)
    (d : Raw → Option α) :
    field (l.map fun f => f.2.map Value.raw) i fallback d = o.elim (some fallback) fun v => d v.raw := by
  have hraw : (l.map fun f => f.2.map Value.raw)[i]? = some (o.map Value.raw) := by
    rw [List.getElem?_map, hi]
    rfl
  rw [field, hraw]
  cases o <;> rfl

section

variable {d : Decoder α} {write : α → Value} {Valid : α → Prop} {o : Option α}

/-- An optional field is read back if its value is. -/
theorem field_optional (hroom : ∀ f ∈ l, ∀ v ∈ f.2, v.raw.depth ≤ room)
    (hi : l[i]? = some (key, o.map write)) (hnull : ∀ a, write a ≠ .null)
    (h : ∀ a ∈ o, (write a).raw.depth ≤ room → d room (write a).raw = some a) :
    field (l.map fun f => f.2.map Value.raw) i none (optional d room) = some o := by
  rw [field_rawFields hi]
  cases o with
  | none => rfl
  | some a =>
    have hread := h a rfl (hroom _ (List.mem_of_getElem? hi) _ rfl)
    have hwrite := hnull a
    rw [Option.map_some, Option.elim_some]
    unfold optional
    split
    · next hraw => cases hvalue : write a <;> simp_all [Value.raw]
    · rw [hread, Option.map_some]

/-- What is read of an optional field is nothing or what the reader yields. -/
theorem Yields.field_optional {fields : List (Option Raw)} (h : Yields d write Valid room)
    (hfield : field fields i none (optional d room) = some o) :
    ∀ a ∈ o, Valid a ∧ (write a).raw.depth ≤ room := by
  rintro a rfl
  unfold field at hfield
  split at hfield
  · next r _ =>
    unfold optional at hfield
    split at hfield
    · cases hfield
    · obtain ⟨a', ha', heq⟩ := Option.map_eq_some_iff.1 hfield
      cases heq
      exact h r a ha'
  · cases hfield

end

/-- A list that is written if it has items. -/
def present (write : List α → Value) : List α → Option Value
  | [] => none
  | a :: l => some (write (a :: l))

variable {d : Decoder (List α)} {write : List α → Value} {Valid : List α → Prop} {items : List α}

/-- A field for a list is read back if the list is. -/
theorem field_present (hroom : ∀ f ∈ l, ∀ v ∈ f.2, v.raw.depth ≤ room)
    (hi : l[i]? = some (key, present write items))
    (h : (write items).raw.depth ≤ room → d room (write items).raw = some items) :
    field (l.map fun f => f.2.map Value.raw) i [] (d room) = some items := by
  rw [field_rawFields hi]
  cases items with
  | nil => rfl
  | cons a r => exact h (hroom _ (List.mem_of_getElem? hi) _ rfl)

theorem forall_mem_present {P : Value → Prop} (h : items = [] ∨ P (write items)) :
    ∀ v ∈ present write items, P v := by
  cases items with
  | nil => rintro v ⟨⟩
  | cons a r =>
    rintro v ⟨⟩
    exact h.resolve_left (by simp)

/-- What is read of a field for a list is what the reader yields, or no list is written. -/
theorem Yields.field_present {fields : List (Option Raw)} (h : Yields d write Valid room) (nil : Valid [])
    (hfield : field fields i [] (d room) = some items) :
    Valid items ∧ (items = [] ∨ (write items).raw.depth ≤ room) := by
  unfold field at hfield
  split at hfield
  · next r _ => exact (h r items hfield).imp_right .inr
  · cases hfield
    exact ⟨nil, .inl rfl⟩

end

/-! ### Round trips -/

section

variable {α : Type}

/-- What is valid is read back from its text and from its value, and what has been read once is read again
from what is written for it. A text is no deeper than 127 and its numbers have to read back; values have no
such bounds. -/
structure RoundTrip (d : Decoder α) (write : α → Value) (Valid : α → Prop) : Prop where
  text : ∀ a, Valid a → (write a).raw.depth ≤ 127 → (∀ x ∈ (write a).numbers, x.ReadsBack) →
    d.ofText (write a).text = some a
  value : ∀ a, Valid a → d.ofValue (write a) = some a
  valid_of_text : ∀ s a, d.ofText s = some a → Valid a ∧ (write a).raw.depth ≤ 127
  valid_of_value : ∀ v a, d.ofValue v = some a → Valid a
  text_again : ∀ s a, d.ofText s = some a → (∀ x ∈ (write a).numbers, x.ReadsBack) →
    d.ofText (write a).text = some a
  value_again : ∀ v a, d.ofValue v = some a → d.ofValue (write a) = some a

theorem roundTrip {d : Decoder α} {write : α → Value} {Valid : α → Prop}
    (back : ∀ a, Valid a → ReadsBack d write a) (valid : ∀ room r a, d room r = some a → Valid a)
    (depth : ∀ r a, d 127 r = some a → (write a).raw.depth ≤ 127) : RoundTrip d write Valid := by
  have htext : ∀ a, Valid a → (write a).raw.depth ≤ 127 → (∀ x ∈ (write a).numbers, x.ReadsBack) →
      d.ofText (write a).text = some a := by
    intro a ha hdepth hnumbers
    rw [ofText, parse?_text hnumbers]
    exact back a ha 127 hdepth
  have hvalue : ∀ a, Valid a → d.ofValue (write a) = some a := fun a ha => back a ha _ (Nat.le_refl _)
  have hread : ∀ s a, d.ofText s = some a → Valid a ∧ (write a).raw.depth ≤ 127 := by
    intro s a h
    obtain ⟨r, -, hr⟩ := Option.bind_eq_some_iff.1 h
    exact ⟨valid 127 r a hr, depth r a hr⟩
  have hgiven : ∀ v a, d.ofValue v = some a → Valid a := fun v a h => valid _ _ a h
  exact ⟨htext, hvalue, hread, hgiven, fun s a h => htext a (hread s a h).1 (hread s a h).2,
    fun v a h => hvalue a (hgiven v a h)⟩

end

end Decoder

end SchemaGo.Json
