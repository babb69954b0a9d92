import SchemaGo.Proofs.Json.Numeral
import SchemaGo.Proofs.Json.Value

/-! What is printed is read back. A string reads back whatever it holds, and a value does if its numbers do:
the text of the value is read as the document of the value, with anything ended left behind it. -/

namespace SchemaGo.Json

/-! ### Strings -/

theorem hexNumber?_hexPair : ∀ n < 0x20, Text.hexNumber? ('0' :: '0' :: hexPair n) = some n := by
  decide

theorem ofUnit_toNat {c : Char} (h : c.toNat < 0x20) : Piece.ofUnit c.toNat = .char c := by
  rw [Piece.ofUnit, if_neg (by omega), Char.ofNat_toNat]

theorem pieces_unit {a b : Char} {n : Nat} (h : Text.hexNumber? ['0', '0', a, b] = some n) (cs : List Char) :
    pieces ('\\' :: 'u' :: '0' :: '0' :: a :: b :: cs) =
      (pieces cs).map fun (ps, rest) => (.ofUnit n :: ps, rest) := by
  rw [pieces, h]
  cases pieces cs <;> rfl

theorem pieces_escaped {e c : Char} (h : simpleEscape? e = some c) (cs : List Char) :
    pieces ('\\' :: e :: cs) = (pieces cs).map fun (ps, rest) => (.char c :: ps, rest) := by
  have he : e ≠ 'u' := by
    rintro rfl
    cases h
  rw [pieces, h]
  · cases pieces cs <;> rfl
  · rintro a b c d cs' rfl
    exact fun _ => he rfl

theorem pieces_plain {c : Char} (hquote : c ≠ '\x22') (hslash : c ≠ '\\') (hcontrol : ¬ c.toNat < 0x20)
    (cs : List Char) :
    pieces (c :: cs) = (pieces cs).map fun (ps, rest) => (.char c :: ps, rest) := by
  rw [pieces, if_neg hquote, if_neg (by simp [hslash, hcontrol])]
  · cases pieces cs <;> rfl
  · exact fun _ _ _ _ _ hc => absurd hc hslash
  · exact fun _ _ hc => absurd hc hslash

/-- A character is escaped by a letter of its own or by its number, or it stands for itself. -/
theorem escape_cases (c : Char) :
    (∃ e, escape c = ['\\', e] ∧ simpleEscape? e = some c) ∨
      (c.toNat < 0x20 ∧ escape c = '\\' :: 'u' :: '0' :: '0' :: hexPair c.toNat) ∨
      (c ≠ '\x22' ∧ c ≠ '\\' ∧ ¬ c.toNat < 0x20 ∧ escape c = [c]) := by
  unfold escape
  iterate 7
    split
    · next h =>
      subst h
      exact .inl ⟨_, rfl, rfl⟩
  split
  · next hcontrol => exact .inr (.inl ⟨hcontrol, rfl⟩)
  · next hquote hslash _ _ _ _ _ hcontrol => exact .inr (.inr ⟨hquote, hslash, hcontrol, rfl⟩)

/-- A character is read back from its escape. -/
theorem pieces_escape (c : Char) (cs : List Char) :
    pieces (escape c ++ cs) = (pieces cs).map fun (ps, rest) => (.char c :: ps, rest) := by
  rcases escape_cases c with ⟨e, hescape, he⟩ | ⟨hcontrol, hescape⟩ | ⟨hquote, hslash, hcontrol, hescape⟩
  · rw [hescape]
    exact pieces_escaped he cs
  · have hunit := pieces_unit (hexNumber?_hexPair _ hcontrol) cs
    rw [ofUnit_toNat hcontrol] at hunit
    rw [hescape]
    exact hunit
  · rw [hescape]
    exact pieces_plain hquote hslash hcontrol cs

theorem pieces_quoted (cs rest : List Char) :
    pieces (cs.flatMap escape ++ '\x22' :: rest) = some (cs.map .char, rest) := by
  induction cs with
  | nil => rfl
  | cons c cs ih => 
    rw [List.flatMap_cons, List.append_assoc, pieces_escape, ih]
    rfl

theorem joinPieces_chars (cs : List Char) : joinPieces (cs.map .char) = some cs := by
  induction cs with
  | nil => rfl
  | cons c cs ih => rw [List.map_cons, joinPieces, ih]; rfl

theorem stringBody_quoted (s : String) (rest : List Char) :
    stringBody (s.toList.flatMap escape ++ '\x22' :: rest) = some (some s, rest) := by
  simp only [stringBody, pieces_quoted, joinPieces_chars, Option.map_some, String.ofList_toList]

/-! ### Steps of the reader -/

/-- The characters that a value may start with. -/
def Starts (c : Char) : Prop :=
  isBlank c = false ∧ c ≠ ']' ∧ c ≠ '\x7d'

instance : DecidablePred Starts := fun _ => inferInstanceAs (Decidable (_ ∧ _ ∧ _))

theorem starts_of_numeral {c : Char} (h : c = '-' ∨ c.isDigit) : Starts c := by
  have hnot : ∀ d ∈ [' ', '\t', '\n', '\r', ']', '\x7d'], c ≠ d := by
    rintro d hd rfl
    simp only [List.mem_cons, List.not_mem_nil, or_false] at hd
    rcases hd with rfl | rfl | rfl | rfl | rfl | rfl <;> exact absurd h (by decide)
  simpa [Starts, isBlank, and_assoc] using hnot

theorem skipBlanks_cons {c : Char} (h : isBlank c = false) (cs : List Char) :
    skipBlanks (c :: cs) = c :: cs := by
  simp [skipBlanks, h]

theorem document_numeral {cs left : List Char} {t : Number.Numeral} (h : numeral cs = some (t, left))
    (fuel : Nat) : document (fuel + 1) cs = some (.number t.value, left) := by
  obtain ⟨c, tail, rfl, hc⟩ := numeral_head h
  rw [document, skipBlanks_cons (starts_of_numeral hc).1]
  split
  case h_7 => rw [h]; rfl
  all_goals
    next heq =>
      cases heq
      exact absurd hc (by decide)

theorem toList_quote_append (s : String) (rest : List Char) :
    (quote s).toList ++ rest = '\x22' :: (s.toList.flatMap escape ++ '\x22' :: rest) := by
  simp [quote]

theorem document_quote (s : String) (rest : List Char) (fuel : Nat) :
    document (fuel + 1) ((quote s).toList ++ rest) = some (.string (some s), rest) := by
  rw [toList_quote_append, document, skipBlanks_cons (by decide)]
  simp [stringBody_quoted]

theorem document_array {cs : List Char} (h : ∃ c tail, cs = c :: tail ∧ Starts c) (fuel : Nat) :
    document (fuel + 1) ('[' :: cs) =
      (itemList fuel cs).map fun (items, rest) => (.array items, rest) := by
  obtain ⟨c, tail, rfl, h⟩ := h
  rw [document, skipBlanks_cons (by decide)]
  simp only [skipBlanks_cons h.1]
  split
  · next heq =>
    cases heq
    exact absurd rfl h.2.1
  · rfl

theorem document_object {cs : List Char} (h : ∃ c tail, cs = c :: tail ∧ Starts c) (fuel : Nat) :
    document (fuel + 1) ('\x7b' :: cs) =
      (memberList fuel cs).map fun (members, rest) => (.object members, rest) := by
  obtain ⟨c, tail, rfl, h⟩ := h
  rw [document, skipBlanks_cons (by decide)]
  simp only [skipBlanks_cons h.1]
  split
  · next heq =>
    cases heq
    exact absurd rfl h.2.2
  · rfl

section

variable {fuel : Nat} {cs cs' : List Char} {item : Raw}

theorem itemList_comma (h : document fuel cs = some (item, ',' :: cs')) :
    itemList (fuel + 1) cs = (itemList fuel cs').map fun (items, rest) => (item :: items, rest) := by
  rw [itemList, h]
  rfl

theorem itemList_close (h : document fuel cs = some (item, ']' :: cs')) :
    itemList (fuel + 1) cs = some ([item], cs') := by
  rw [itemList, h]
  rfl

theorem memberList_comma (key : String) (h : document fuel cs = some (item, ',' :: cs')) :
    memberList (fuel + 1) ((quote key).toList ++ ':' :: cs) =
      (memberList fuel cs').map fun (members, rest) => ((some key, item) :: members, rest) := by
  rw [toList_quote_append, memberList, skipBlanks_cons (by decide)]
  simp [stringBody_quoted, skipBlanks_cons, isBlank, h]

theorem memberList_close (key : String) (h : document fuel cs = some (item, '\x7d' :: cs')) :
    memberList (fuel + 1) ((quote key).toList ++ ':' :: cs) = some ([(some key, item)], cs') := by
  rw [toList_quote_append, memberList, skipBlanks_cons (by decide)]
  simp [stringBody_quoted, skipBlanks_cons, isBlank, h]

end

/-! ### Values -/

namespace Value

theorem head_text {v : Value} (h : ∀ x ∈ v.numbers, x.ReadsBack) :
    ∃ c cs, v.text.toList = c :: cs ∧ Starts c := by
  cases v with
  | null => exact ⟨'n', ['u', 'l', 'l'], by simp [text], by decide⟩
  | bool b =>
    cases b with
    | false => exact ⟨'f', ['a', 'l', 's', 'e'], by simp [text], by decide⟩
    | true => exact ⟨'t', ['r', 'u', 'e'], by simp [text], by decide⟩
  | number x =>
    obtain ⟨t, ht, -⟩ := h x (by simp [numbers])
    obtain ⟨c, cs, hcs, hc⟩ := numeral_head ht
    exact ⟨c, cs, hcs, starts_of_numeral hc⟩
  | string s => exact ⟨'\x22', _, by simp [text, quote]; rfl, by decide⟩
  | array items => exact ⟨'[', _, by simp [text]; rfl, by decide⟩
  | object members => exact ⟨'\x7b', _, by simp [text]; rfl, by decide⟩

theorem length_text_pos {v : Value} (h : ∀ x ∈ v.numbers, x.ReadsBack) : 0 < v.text.length := by
  obtain ⟨c, cs, hcs, -⟩ := head_text h
  rw [← String.length_toList, hcs]
  exact Nat.succ_pos _

/-- The text is read as the document of the value, whatever is ended behind it. Every step of the reader
has a character of the text to itself, so the length of the text is fuel enough. -/
def Reads (v : Value) : Prop :=
  ∀ rest fuel, Ended rest → v.text.length ≤ fuel →
    document fuel (v.text.toList ++ rest) = some (v.raw, rest)

theorem reads_of_succ {v : Value} (h : ∀ x ∈ v.numbers, x.ReadsBack)
    (hsucc : ∀ rest fuel, Ended rest → v.text.length ≤ fuel + 1 →
      document (fuel + 1) (v.text.toList ++ rest) = some (v.raw, rest)) : v.Reads := by
  rintro rest (_ | fuel) hrest hfuel
  · have hpos := length_text_pos h
    omega
  · exact hsucc rest fuel hrest hfuel

theorem ended_cons {c : Char} (h : c = ',' ∨ c = ']' ∨ c = '\x7d') (rest : List Char) :
    Ended (c :: rest) := by
  rintro _ ⟨⟩
  exact h

theorem itemList_text {v : Value} {r : List Value} (h : ∀ w ∈ v :: r, w.Reads) (rest : List Char)
    {fuel : Nat} (hfuel : (itemsText (v :: r)).length < fuel) :
    itemList fuel ((itemsText (v :: r)).toList ++ ']' :: rest) = some (rawItems (v :: r), rest) := by
  obtain ⟨fuel, rfl⟩ : ∃ k, fuel = k + 1 := ⟨fuel - 1, by omega⟩
  induction r generalizing v fuel with
  | nil =>
    have hv : v.Reads := h v List.mem_cons_self
    exact itemList_close (hv _ _ (ended_cons (by simp) rest) (Nat.lt_succ_iff.1 hfuel))
  | cons w r ih =>
    have hv : v.Reads := h v List.mem_cons_self
    have htext : (itemsText (v :: w :: r)).toList ++ ']' :: rest =
        v.text.toList ++ ',' :: ((itemsText (w :: r)).toList ++ ']' :: rest) := by
      simp [itemsText]
    have hlength : (itemsText (v :: w :: r)).length = v.text.length + 1 + (itemsText (w :: r)).length := by
      simp only [itemsText, String.length_append]
      rfl
    obtain ⟨fuel, rfl⟩ : ∃ k, fuel = k + 1 := ⟨fuel - 1, by omega⟩
    rw [htext, itemList_comma (hv _ _ (ended_cons (by simp) _) (by omega)),
      ih (fun u hu => h u (List.mem_cons_of_mem v hu)) fuel (by omega)]
    rfl

theorem memberList_text {m : String × Value} {r : List (String × Value)} (h : ∀ p ∈ m :: r, p.2.Reads)
    (rest : List Char) {fuel : Nat} (hfuel : (membersText (m :: r)).length < fuel) :
    memberList fuel ((membersText (m :: r)).toList ++ '\x7d' :: rest) =
      some (rawMembers (m :: r), rest) := by
  obtain ⟨fuel, rfl⟩ : ∃ k, fuel = k + 1 := ⟨fuel - 1, by omega⟩
  induction r generalizing m fuel with
  | nil =>
    obtain ⟨key, v⟩ := m
    have hv : v.Reads := h (key, v) List.mem_cons_self
    have htext : (membersText [(key, v)]).toList ++ '\x7d' :: rest =
        (quote key).toList ++ ':' :: (v.text.toList ++ '\x7d' :: rest) := by
      simp [membersText]
    have hlength : (membersText [(key, v)]).length = (quote key).length + 1 + v.text.length := by
      simp only [membersText, String.length_append]
      rfl
    rw [htext]
    exact memberList_close key (hv _ _ (ended_cons (by simp) rest) (by omega))
  | cons p r ih =>
    obtain ⟨key, v⟩ := m
    have hv : v.Reads := h (key, v) List.mem_cons_self
    have htext : (membersText ((key, v) :: p :: r)).toList ++ '\x7d' :: rest =
        (quote key).toList ++ ':' ::
          (v.text.toList ++ ',' :: ((membersText (p :: r)).toList ++ '\x7d' :: rest)) := by
      simp [membersText]
    have hlength : (membersText ((key, v) :: p :: r)).length =
        (quote key).length + 1 + v.text.length + 1 + (membersText (p :: r)).length := by
      simp only [membersText, String.length_append]
      rfl
    obtain ⟨fuel, rfl⟩ : ∃ k, fuel = k + 1 := ⟨fuel - 1, by omega⟩
    rw [htext, memberList_comma key (hv _ _ (ended_cons (by simp) _) (by omega)),
      ih (fun q hq => h q (List.mem_cons_of_mem _ hq)) fuel (by omega)]
    rfl

theorem head_itemsText {v : Value} (h : ∀ x ∈ v.numbers, x.ReadsBack) (r : List Value) (rest : List Char) :
    ∃ c tail, (itemsText (v :: r)).toList ++ rest = c :: tail ∧ Starts c := by
  obtain ⟨c, cs, hcs, hc⟩ := head_text h
  cases r with
  | nil => exact ⟨c, cs ++ rest, by simp [itemsText, hcs], hc⟩
  | cons w r => exact ⟨c, _, by simp [itemsText, hcs]; rfl, hc⟩

theorem head_membersText (m : String × Value) (r : List (String × Value)) (rest : List Char) :
    ∃ c tail, (membersText (m :: r)).toList ++ rest = c :: tail ∧ Starts c := by
  obtain ⟨key, v⟩ := m
  cases r with
  | nil => exact ⟨'\x22', _, by simp [membersText, quote]; rfl, by decide⟩
  | cons p r => exact ⟨'\x22', _, by simp [membersText, quote]; rfl, by decide⟩

theorem reads_of_numbers {v : Value} (h : ∀ x ∈ v.numbers, x.ReadsBack) : v.Reads := by
  induction v using partInduction with
  | null =>
    refine reads_of_succ h fun rest fuel _ _ => ?_
    rw [document]
    simp [text, skipBlanks_cons, isBlank, raw]
  | bool b =>
    refine reads_of_succ h fun rest fuel _ _ => ?_
    rw [document]
    cases b <;> simp [text, skipBlanks_cons, isBlank, raw]
  | number x =>
    refine reads_of_succ h fun rest fuel hrest _ => ?_
    obtain ⟨t, ht, hx⟩ := h x (by simp [numbers])
    rw [text, raw, ← hx]
    exact document_numeral (stopsAtEnd_numeral hrest ht) fuel
  | string s => exact reads_of_succ h fun rest fuel _ _ => document_quote s rest fuel
  | array items ih =>
    refine reads_of_succ h fun rest fuel _ hfuel => ?_
    have htext : (array items).text.toList ++ rest = '[' :: ((itemsText items).toList ++ ']' :: rest) := by
      simp [text]
    have hlength : (array items).text.length = 1 + (itemsText items).length + 1 := by
      simp only [text, String.length_append]
      rfl
    have hparts : ∀ v ∈ items, ∀ x ∈ v.numbers, x.ReadsBack := by
      intro v hv x hx
      exact h x (numbers_array items ▸ List.mem_flatMap.2 ⟨v, hv, hx⟩)
    rw [htext]
    cases items with
    | nil =>
      rw [document]
      simp [itemsText, skipBlanks_cons, isBlank, raw, rawItems]
    | cons v r =>
      rw [document_array (head_itemsText (hparts v List.mem_cons_self) r _),
        itemList_text (fun w hw => ih w hw (hparts w hw)) rest (by omega)]
      rfl
  | object members ih =>
    refine reads_of_succ h fun rest fuel _ hfuel => ?_
    have htext : (object members).text.toList ++ rest =
        '\x7b' :: ((membersText members).toList ++ '\x7d' :: rest) := by
      simp [text]
    have hlength : (object members).text.length = 1 + (membersText members).length + 1 := by
      simp only [text, String.length_append]
      rfl
    have hparts : ∀ m ∈ members, ∀ x ∈ m.2.numbers, x.ReadsBack := by
      intro m hm x hx
      exact h x (numbers_object members ▸ List.mem_flatMap.2 ⟨m, hm, hx⟩)
    rw [htext]
    cases members with
    | nil =>
      rw [document]
      simp [membersText, skipBlanks_cons, isBlank, raw, rawMembers]
    | cons m r =>
      rw [document_object (head_membersText m r _),
        memberList_text (fun p hp => ih p hp (hparts p hp)) rest (by omega)]
      rfl

end Value

/-- The text of a value whose numbers read back is read as the document of the value. -/
theorem parse?_text {v : Value} (h : ∀ x ∈ v.numbers, x.ReadsBack) : parse? v.text = some v.raw := by
  have hread := v.reads_of_numbers h [] (v.text.length + 1) ended_nil (Nat.le_succ _)
  rw [List.append_nil] at hread
  rw [parse?, hread]
  rfl

/-- Such a value is read back from its text wherever there is room for it. -/
theorem value?_text_iff {v : Value} (keys : v.DistinctKeys) (numbers : ∀ x ∈ v.numbers, x.ReadsBack)
    (room : Nat) : (parse? v.text).bind (Raw.value? room) = some v ↔ v.raw.depth ≤ room := by
  rw [parse?_text numbers, Option.bind_some]
  exact ⟨fun h => (Value.distinctKeys_of_value? h).2, Value.value?_raw keys⟩

end SchemaGo.Json
