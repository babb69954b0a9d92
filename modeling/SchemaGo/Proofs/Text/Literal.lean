import Mathlib.Data.List.Basic
import Mathlib.Data.List.Flatten
import SchemaGo.Toml.Quoted

/-! String literals of generated code and what they stand for. An interpreted string stands between
quotes and has escapes, and its value is a list of bytes, which need not encode characters. A raw string
stands between backquotes; its characters stand for themselves, except that carriage returns do not
count. -/

namespace SchemaGo.Text

open Toml (codePoint?)

/-! ### Bytes of characters -/

/-- The encoding of a text. -/
def bytes (l : List Char) : List UInt8 :=
  l.flatMap String.utf8EncodeChar

/-- The byte of the comma, which is in the encoding of no other character. -/
def commaByte : UInt8 := 0x2c

theorem bytes_cons (c : Char) (l : List Char) : bytes (c :: l) = String.utf8EncodeChar c ++ bytes l :=
  List.flatMap_cons

theorem bytes_append (a b : List Char) : bytes (a ++ b) = bytes a ++ bytes b :=
  List.flatMap_append

theorem length_utf8EncodeChar_pos (c : Char) : 0 < (String.utf8EncodeChar c).length := by
  rw [String.length_utf8EncodeChar]
  exact c.utf8Size_pos

theorem commaByte_mem_utf8EncodeChar {c : Char} : commaByte ∈ String.utf8EncodeChar c ↔ c = ',' := by
  have hbyte : ∀ n, commaByte = UInt8.ofNat n ↔ n % 256 = 0x2c := by
    intro n
    rw [← UInt8.toNat_inj, UInt8.toNat_ofNat']
    exact eq_comm
  constructor
  · intro h
    have hval : c.val.toNat = 0x2c := by
      simp only [String.utf8EncodeChar] at h
      split at h
      · simp only [List.mem_singleton, hbyte] at h
        omega
      · split at h
        · simp only [List.mem_cons, List.not_mem_nil, or_false, hbyte] at h
          omega
        · split at h <;> simp only [List.mem_cons, List.not_mem_nil, or_false, hbyte] at h <;> omega
    exact Char.ext (UInt32.toNat_inj.1 hval)
  · rintro rfl
    decide

theorem commaByte_not_mem_bytes {l : List Char} (h : ',' ∉ l) : commaByte ∉ bytes l := by
  intro hmem
  obtain ⟨c, hc, hbyte⟩ := List.mem_flatMap.1 hmem
  obtain rfl := commaByte_mem_utf8EncodeChar.1 hbyte
  exact h hc

theorem length_le_length_bytes (l : List Char) : l.length ≤ (bytes l).length := by
  induction l with
  | nil => exact Nat.le_refl 0
  | cons c l ih =>
    have hpos := length_utf8EncodeChar_pos c
    rw [bytes_cons, List.length_append, List.length_cons]
    omega

theorem length_bytes_le_of_sublist {a b : List Char} (h : a.Sublist b) :
    (bytes a).length ≤ (bytes b).length :=
  (h.flatMap _).length_le

/-- Characters that are left out are missed among the bytes. -/
theorem eq_of_sublist_of_bytes {a b : List Char} (h : a.Sublist b)
    (hlength : (bytes b).length ≤ (bytes a).length) : a = b := by
  induction h with
  | slnil => rfl
  | cons c h _ =>
    have hless := length_bytes_le_of_sublist h
    have hpos := length_utf8EncodeChar_pos c
    rw [bytes_cons, List.length_append] at hlength
    omega
  | cons_cons c _ ih =>
    rw [bytes_cons, bytes_cons, List.length_append, List.length_append] at hlength
    rw [ih (by omega)]

/-! ### Interpreted strings -/

/-- The byte of an escape by one character. -/
def shortEscape? : Char → Option UInt8
  | 'a' => some 0x07
  | 'b' => some 0x08
  | 'f' => some 0x0c
  | 'n' => some 0x0a
  | 'r' => some 0x0d
  | 't' => some 0x09
  | 'v' => some 0x0b
  | '\\' => some 0x5c
  | '\x22' => some 0x22
  | _ => none

def octalDigit? (c : Char) : Option Nat :=
  if '0' ≤ c ∧ c ≤ '7' then some (c.toNat - 48) else none

/-- The number of octal digits, the leading one first. -/
def octalNumber? (cs : List Char) : Option Nat :=
  cs.foldlM (fun n c => (octalDigit? c).map (8 * n + ·)) 0

/-- The bytes of the escape whose backslash stands in front of the characters, and how many of the
characters belong to it. -/
def escape? : List Char → Option (List UInt8 × Nat)
  | [] => none
  | 'x' :: a :: b :: _ => (hexNumber? [a, b]).map fun n => ([UInt8.ofNat n], 3)
  | 'u' :: a :: b :: c :: d :: _ =>
    (codePoint? [a, b, c, d]).map fun p => (String.utf8EncodeChar p, 5)
  | 'U' :: a :: b :: c :: d :: e :: f :: g :: h :: _ =>
    (codePoint? [a, b, c, d, e, f, g, h]).map fun p => (String.utf8EncodeChar p, 9)
  | a :: cs =>
    match shortEscape? a, cs with
    | some byte, _ => some ([byte], 1)
    | none, b :: c :: _ => ((octalNumber? [a, b, c]).filter (· < 256)).map fun n => ([UInt8.ofNat n], 3)
    | none, _ => none

/-- The value of a string from behind its opening quote, after `skip` characters that an escape has
taken, and what stands behind its closing quote. -/
def interpreted : (skip : Nat) → Reader (List UInt8)
  | _, [] => none
  | skip + 1, _ :: cs => interpreted skip cs
  | 0, c :: cs =>
    if c = '\x22' then some ([], cs)
    else if c = '\n' then none
    else if c = '\\' then
      (escape? cs).bind fun (front, taken) =>
        (interpreted taken cs).map fun (v, rest) => (front ++ v, rest)
    else (interpreted 0 cs).map fun (v, rest) => (String.utf8EncodeChar c ++ v, rest)

/-- The text that a whole literal in quotes stands for, if its value encodes one. -/
def unquote? (literal : String) : Option String :=
  match literal.toList with
  | '\x22' :: cs =>
    match interpreted 0 cs with
    | some (v, []) => String.fromUTF8? v.toByteArray
    | _ => none
  | _ => none

theorem fromUTF8?_bytes (s : String) : String.fromUTF8? (bytes s.toList).toByteArray = some s := by
  have hbytes : (bytes s.toList).toByteArray = s.toByteArray := by
    have hencode := String.toByteArray_ofList (l := s.toList)
    rw [String.ofList_toList] at hencode
    exact hencode.symm
  rw [hbytes, String.fromUTF8?, dif_pos s.isValidUTF8]
  rfl

theorem interpreted_eq_drop (skip : Nat) (l : List Char) :
    interpreted skip l = interpreted 0 (l.drop skip) := by
  induction l generalizing skip with
  | nil => cases skip <;> simp [interpreted]
  | cons c l ih =>
    cases skip with
    | zero => rfl
    | succ skip => rw [interpreted, ih, List.drop_succ_cons]

theorem isSome_of_foldlM {digit? : Char → Option Nat} {base : Nat} {l : List Char} {start n : Nat}
    (h : l.foldlM (fun n c => (digit? c).map (base * n + ·)) start = some n) :
    ∀ c ∈ l, (digit? c).isSome := by
  induction l generalizing start with
  | nil => simp
  | cons c l ih =>
    rw [List.foldlM_cons, Option.bind_eq_bind, Option.bind_eq_some_iff] at h
    obtain ⟨k, hk, hrest⟩ := h
    obtain ⟨d, hd, -⟩ := Option.map_eq_some_iff.1 hk
    exact List.forall_mem_cons.2 ⟨by simp [hd], ih hrest⟩

/-- Characters that are neither commas nor newlines. -/
def Inner (l : List Char) : Prop :=
  ∀ c ∈ l, c ≠ ',' ∧ c ≠ '\n'

instance (l : List Char) : Decidable (Inner l) :=
  List.decidableBAll _ l

theorem inner_of_hexNumber? {l : List Char} {n : Nat} (h : hexNumber? l = some n) : Inner l := by
  refine fun c hc => ⟨?_, ?_⟩ <;> rintro rfl <;> exact absurd (isSome_of_foldlM h _ hc) (by decide)

theorem inner_of_codePoint? {l : List Char} {p : Char} (h : codePoint? l = some p) : Inner l := by
  obtain ⟨n, hn, -⟩ := Option.bind_eq_some_iff.1 h
  exact inner_of_hexNumber? hn

theorem inner_of_octalNumber? {l : List Char} {n : Nat} (h : octalNumber? l = some n) : Inner l := by
  refine fun c hc => ⟨?_, ?_⟩ <;> rintro rfl <;> exact absurd (isSome_of_foldlM h _ hc) (by decide)

theorem inner_cons {c : Char} {l : List Char} (hc : c ≠ ',' ∧ c ≠ '\n') (hl : Inner l) :
    Inner (c :: l) :=
  List.forall_mem_cons.2 ⟨hc, hl⟩

theorem inner_of_shortEscape? {c : Char} {byte : UInt8} (h : shortEscape? c = some byte) :
    c ≠ ',' ∧ c ≠ '\n' := by
  constructor <;> rintro rfl <;> cases h

/-- An escape takes neither a comma nor a newline, and no fewer characters than it has bytes. -/
theorem escape?_eq_some {l : List Char} {front : List UInt8} {taken : Nat}
    (h : escape? l = some (front, taken)) :
    taken ≤ l.length ∧ front.length ≤ taken ∧ Inner (l.take taken) := by
  have hsize : ∀ c, (String.utf8EncodeChar c).length ≤ 4 := by
    intro c
    rw [String.length_utf8EncodeChar]
    exact c.utf8Size_le_four
  revert h
  fun_cases escape? l with
  | case1 => simp
  | case2 a b cs =>
    rw [Option.map_eq_some_iff]
    rintro ⟨n, hn, ⟨⟩⟩
    exact ⟨by simp, by simp, inner_cons (by decide) (inner_of_hexNumber? hn)⟩
  | case3 a b c d cs =>
    rw [Option.map_eq_some_iff]
    rintro ⟨p, hp, ⟨⟩⟩
    have := hsize p
    exact ⟨by simp, by omega, inner_cons (by decide) (inner_of_codePoint? hp)⟩
  | case4 a b c d e f g h cs =>
    rw [Option.map_eq_some_iff]
    rintro ⟨p, hp, ⟨⟩⟩
    have := hsize p
    exact ⟨by simp, by omega, inner_cons (by decide) (inner_of_codePoint? hp)⟩
  | case5 a cs _ _ _ byte hbyte =>
    rintro ⟨⟩
    exact ⟨by simp, by simp, inner_cons (inner_of_shortEscape? hbyte) (by simp [Inner])⟩
  | case6 a b c cs =>
    rw [Option.map_eq_some_iff]
    rintro ⟨n, hn, ⟨⟩⟩
    exact ⟨by simp, by simp, inner_of_octalNumber? (Option.filter_eq_some_iff.1 hn).1⟩
  | case7 => simp

/-- A character that stands for itself in an interpreted string. -/
def Literal (c : Char) : Prop :=
  c ≠ '\x22' ∧ c ≠ '\\' ∧ c ≠ '\n'

/-- Characters that stand for themselves are read as they are. -/
theorem interpreted_literal {l : List Char} (h : ∀ c ∈ l, Literal c) (rest : List Char) :
    interpreted 0 (l ++ rest) = (interpreted 0 rest).map fun (v, rest) => (bytes l ++ v, rest) := by
  induction l with
  | nil => simp [bytes]
  | cons c l ih =>
    obtain ⟨⟨hquote, hback, hnewline⟩, hl⟩ := List.forall_mem_cons.1 h
    rw [List.cons_append, interpreted, if_neg hquote, if_neg hnewline, if_neg hback, ih hl,
      Option.map_map]
    simp [bytes_cons, Function.comp_def]

/-! ### Up to the first comma -/

/-- The bytes in front of the first comma. -/
def upToComma (v : List UInt8) : List UInt8 :=
  v.takeWhile (· ≠ commaByte)

theorem length_upToComma_append (a b : List UInt8) :
    (upToComma (a ++ b)).length ≤ a.length + (upToComma b).length := by
  unfold upToComma
  rw [List.takeWhile_append]
  split
  · simp
  · have := (List.takeWhile_sublist (l := a) fun byte => decide (byte ≠ commaByte)).length_le
    omega

theorem upToComma_bytes {l : List Char} (h : ',' ∉ l) (v : List UInt8) :
    upToComma (bytes l ++ commaByte :: v) = bytes l := by
  have hnot := commaByte_not_mem_bytes h
  unfold upToComma
  rw [List.takeWhile_append_of_pos fun byte hbyte => by simpa using ne_of_mem_of_not_mem hbyte hnot]
  simp

/-- An escape ends in front of a comma or a newline. -/
theorem escape?_within {l rest : List Char} (hrest : ∀ c ∈ rest.head?, c = ',' ∨ c = '\n')
    {front : List UInt8} {taken : Nat} (h : escape? (l ++ rest) = some (front, taken)) :
    taken ≤ l.length := by
  obtain ⟨htaken, -, hinner⟩ := escape?_eq_some h
  by_contra hlt
  cases rest with
  | nil => exact hlt (by simpa using htaken)
  | cons c rest =>
    have hmem : c ∈ (l ++ c :: rest).take taken := by
      obtain ⟨k, hk⟩ := Nat.exists_eq_add_of_lt (Nat.lt_of_not_le hlt)
      rw [List.take_append, show taken - l.length = k + 1 by omega]
      simp
    rcases hrest c rfl with hc | hc
    · exact (hinner c hmem).1 hc
    · exact (hinner c hmem).2 hc

/-- Where a comma or a newline, or nothing, follows some characters, no more bytes are read up to the
first comma than the characters have, and as many only if they all stand for themselves. -/
theorem length_upToComma_le {l rest : List Char} (hrest : ∀ c ∈ rest.head?, c = ',' ∨ c = '\n')
    {v : List UInt8} {after : List Char} (h : interpreted 0 (l ++ rest) = some (v, after)) :
    (upToComma v).length ≤ (bytes l).length ∧
      ((upToComma v).length = (bytes l).length → ∀ c ∈ l, c ≠ ',' ∧ Literal c) := by
  induction hlength : l.length using Nat.strongRecOn generalizing l v with
  | ind length ih =>
    cases l with
    | nil =>
      suffices hempty : upToComma v = [] by simp [hempty]
      rw [List.nil_append] at h
      cases rest with
      | nil => simp [interpreted] at h
      | cons c rest =>
        rcases hrest c rfl with rfl | rfl
        · obtain ⟨⟨w, after⟩, -, ⟨⟩⟩ := Option.map_eq_some_iff.1 h
          rfl
        · simp [interpreted] at h
    | cons c l =>
      have hpos := length_utf8EncodeChar_pos c
      rw [bytes_cons, List.length_append]
      rw [List.length_cons] at hlength
      rw [List.cons_append, interpreted] at h
      split at h
      · -- the quote ends the string
        obtain ⟨rfl, -⟩ := Prod.mk.inj (Option.some.inj h)
        have hempty : (upToComma []).length = 0 := rfl
        exact ⟨by omega, fun heq => by omega⟩
      split at h
      · cases h
      split at h
      · -- an escape has no more bytes than it takes characters of `l`, and the backslash is one more
        obtain ⟨⟨front, taken⟩, hescape, hread⟩ := Option.bind_eq_some_iff.1 h
        obtain ⟨⟨w, after⟩, hw, heq⟩ := Option.map_eq_some_iff.1 hread
        obtain ⟨rfl, rfl⟩ := Prod.mk.inj heq
        obtain ⟨-, hfront, -⟩ := escape?_eq_some hescape
        have hwithin := escape?_within hrest hescape
        rw [interpreted_eq_drop, List.drop_append_of_le_length hwithin] at hw
        obtain ⟨hle, -⟩ := ih (l.drop taken).length (by rw [List.length_drop]; omega) hw rfl
        have hread := length_upToComma_append front w
        have htaken := length_le_length_bytes (l.take taken)
        have hbytes : (bytes l).length =
            (bytes (l.take taken)).length + (bytes (l.drop taken)).length := by
          rw [← List.length_append, ← bytes_append, List.take_append_drop]
        rw [List.length_take_of_le hwithin] at htaken
        exact ⟨by omega, fun heq => by omega⟩
      · next hquote hnewline hback =>
        obtain ⟨⟨w, after⟩, hw, heq⟩ := Option.map_eq_some_iff.1 h
        obtain ⟨rfl, rfl⟩ := Prod.mk.inj heq
        by_cases hcomma : c = ','
        · subst hcomma
          have hempty : (upToComma (String.utf8EncodeChar ',' ++ w)).length = 0 := rfl
          exact ⟨by omega, fun heq => by omega⟩
        · obtain ⟨hle, hsame⟩ := ih l.length (by omega) hw rfl
          have hread := length_upToComma_append (String.utf8EncodeChar c) w
          refine ⟨by omega, fun heq => List.forall_mem_cons.2 ⟨⟨hcomma, hquote, hback, hnewline⟩, ?_⟩⟩
          exact hsame (by omega)

/-! ### Raw strings -/

/-- What stands behind the first backquotes, so many of them. -/
def behindBackquotes : Nat → List Char → Option (List Char)
  | 0, l => some l
  | _ + 1, [] => none
  | n + 1, c :: l => if c = '\x60' then behindBackquotes n l else behindBackquotes (n + 1) l

/-- The value of the raw string with a number, counted from zero. -/
def rawString? (i : Nat) (l : List Char) : Option (List Char) :=
  (behindBackquotes (2 * i + 1) l).bind fun l =>
    if '\x60' ∈ l then some ((l.filter (· ≠ '\r')).takeWhile (· ≠ '\x60')) else none

theorem behindBackquotes_count (a b : List Char) :
    behindBackquotes (a.count '\x60' + 1) (a ++ '\x60' :: b) = some b := by
  induction a with
  | nil => simp [behindBackquotes]
  | cons c a ih =>
    by_cases hc : c = '\x60'
    · subst hc
      rw [List.count_cons_self, List.cons_append, behindBackquotes, if_pos rfl, ih]
    · rw [List.count_cons_of_ne hc, List.cons_append, behindBackquotes, if_neg hc, ih]

/-- The raw string whose opening backquote has `2 * i` in front of it. -/
theorem rawString?_eq {a b : List Char} {i : Nat} (ha : a.count '\x60' = 2 * i) (hb : '\x60' ∈ b) :
    rawString? i (a ++ '\x60' :: b) = some ((b.filter (· ≠ '\r')).takeWhile (· ≠ '\x60')) := by
  rw [rawString?, ← ha, behindBackquotes_count, Option.bind_some, if_pos hb]

end SchemaGo.Text
