import SchemaGo.Proofs.Naming.Exported

/-! Names in Pascal case by their letters. Such a name has the letters and numbers of a text in their order,
in upper case where one begins a word. So it is empty exactly if the text has none, and one word with a
capital in front is its own name. A text of ASCII has a name that is such a word, or none. -/

namespace SchemaGo.Text

/-- The letters and numbers of a text, each with whether it begins a word. -/
def letters (start : Bool) : List Char → List (Bool × Char)
  | [] => []
  | c :: cs => if isWord c then (start, c) :: letters false cs else letters true cs

/-- A letter or number as it stands in Pascal case. -/
def cased (p : Bool × Char) : List Char :=
  if p.1 then upper p.2 else [p.2]

theorem pascalFrom_eq_flatMap (start : Bool) (l : List Char) :
    pascalFrom start l = (letters start l).flatMap cased := by
  induction l generalizing start with
  | nil => rfl
  | cons c cs ih =>
    rw [pascalFrom, letters]
    split
    · rw [ih, List.flatMap_cons, cased]
    · exact ih true

theorem toList_pascalCase (s : String) :
    (pascalCase s).toList = (letters true s.toList).flatMap cased := by
  rw [pascalCase, String.toList_ofList, pascalFrom_eq_flatMap]

theorem map_letters (start : Bool) (l : List Char) : (letters start l).map (·.2) = l.filter isWord := by
  induction l generalizing start with
  | nil => rfl
  | cons c cs ih =>
    rw [letters, List.filter_cons]
    split
    · rw [List.map_cons, ih]
    · exact ih true

theorem mem_of_mem_letters {start : Bool} {l : List Char} {p : Bool × Char} (h : p ∈ letters start l) :
    p.2 ∈ l ∧ isWord p.2 = true := by
  have hmem : p.2 ∈ (letters start l).map (·.2) := List.mem_map_of_mem h
  rw [map_letters] at hmem
  exact List.mem_filter.1 hmem

/-- The first letter begins a word. -/
theorem fst_of_head?_letters {l : List Char} {p : Bool × Char} (h : (letters true l).head? = some p) :
    p.1 = true := by
  induction l with
  | nil => cases h
  | cons c cs ih =>
    rw [letters] at h
    split at h
    · obtain rfl := Option.some.inj h
      rfl
    · exact ih h

theorem cased_ne_nil (p : Bool × Char) : cased p ≠ [] := by
  unfold cased
  split
  · exact upper_ne_nil p.2
  · simp

theorem letters_eq_nil_iff {start : Bool} {l : List Char} :
    letters start l = [] ↔ ∀ c ∈ l, isWord c = false := by
  rw [← List.map_eq_nil_iff (f := (·.2)), map_letters, List.filter_eq_nil_iff]
  simp

theorem pascalCase_eq_empty_iff {s : String} : pascalCase s = "" ↔ letters true s.toList = [] := by
  rw [← String.toList_eq_nil_iff, toList_pascalCase]
  cases letters true s.toList with
  | nil => simp
  | cons p ps => simp [cased_ne_nil]

/-- The head of a name is that of the upper case of the first letter. -/
theorem head?_pascalCase (s : String) :
    (pascalCase s).toList.head? = (letters true s.toList).head?.bind fun p => (upper p.2).head? := by
  rw [toList_pascalCase]
  cases hletters : letters true s.toList with
  | nil => rfl
  | cons p ps =>
    have hstart : p.1 = true := fst_of_head?_letters (by rw [hletters]; rfl)
    rw [List.flatMap_cons, List.head?_append_of_ne_nil _ (cased_ne_nil p), cased, if_pos hstart]
    rfl

/-! ### Names that are words -/

/-- The text is one word, and its first character has no other upper case. -/
structure IsName (t : List Char) : Prop where
  word : ∀ c ∈ t, isWord c = true
  capital : ∀ c ∈ t.head?, upper c = [c]

instance (t : List Char) : Decidable (IsName t) :=
  decidable_of_iff (t.all isWord ∧ t.head?.all fun c => upper c == [c])
    ⟨fun ⟨hword, hcapital⟩ => ⟨by simpa using hword, by simpa [Option.all_eq_true] using hcapital⟩,
      fun h => ⟨by simpa using h.word, by simpa [Option.all_eq_true] using h.capital⟩⟩

theorem pascalFrom_false_of_word {l : List Char} (h : ∀ c ∈ l, isWord c = true) : pascalFrom false l = l := by
  induction l with
  | nil => rfl
  | cons c cs ih =>
    obtain ⟨hc, hcs⟩ := List.forall_mem_cons.1 h
    rw [pascalFrom, if_pos hc, ih hcs]
    rfl

theorem IsName.pascalCase_eq {s : String} (h : IsName s.toList) : pascalCase s = s := by
  rw [← String.toList_inj, pascalCase, String.toList_ofList]
  cases hlist : s.toList with
  | nil => rfl
  | cons c cs =>
    rw [hlist] at h
    obtain ⟨hc, hcs⟩ := List.forall_mem_cons.1 h.word
    rw [pascalFrom, if_pos hc, if_pos rfl, h.capital c rfl, pascalFrom_false_of_word hcs]
    rfl

theorem IsName.cons {c : Char} {t : List Char} (h : IsName t) (hc : isWord c = true)
    (hcapital : upper c = [c]) : IsName (c :: t) where
  word := List.forall_mem_cons.2 ⟨hc, h.word⟩
  capital := by
    rintro d ⟨⟩
    exact hcapital

/-! ### Texts of ASCII -/

/-- A digit of ASCII is its own upper case. -/
theorem upper_digit {c : Char} (h : c.isDigit = true) : isWord c = true ∧ upper c = [c] := by
  have hc : c.toNat < 128 := by
    simp only [Char.isDigit, Bool.and_eq_true, decide_eq_true_eq] at h
    exact Nat.lt_of_le_of_lt (UInt32.le_iff_toNat_le.1 h.2) (by decide)
  exact forall_ascii (P := fun c => c.isDigit = true → isWord c = true ∧ upper c = [c])
    (by decide +kernel) hc h

theorem isName_of_digits {l : List Char} (h : ∀ c ∈ l, c.isDigit = true) : IsName l where
  word c hc := (upper_digit (h c hc)).1
  capital c hc := (upper_digit (h c (List.mem_of_head? hc))).2

/-- A letter or number of ASCII has one of them for its upper case, which is its own upper case. -/
theorem upper_ascii {c : Char} (hc : c.toNat < 128) (hword : isWord c = true) :
    ∃ d, upper c = [d] ∧ isWord d = true ∧ upper d = [d] :=
  ⟨c.toUpper, forall_ascii (P := fun c => isWord c = true →
    upper c = [c.toUpper] ∧ isWord c.toUpper = true ∧ upper c.toUpper = [c.toUpper])
    (by decide +kernel) hc hword⟩

theorem isName_pascalCase {s : String} (ascii : ∀ c ∈ s.toList, c.toNat < 128) :
    IsName (pascalCase s).toList := by
  have hupper : ∀ p ∈ letters true s.toList,
      isWord p.2 = true ∧ ∃ d, upper p.2 = [d] ∧ isWord d = true ∧ upper d = [d] := by
    intro p hp
    obtain ⟨hmem, hword⟩ := mem_of_mem_letters hp
    exact ⟨hword, upper_ascii (ascii p.2 hmem) hword⟩
  constructor
  · intro c hc
    rw [toList_pascalCase] at hc
    obtain ⟨p, hp, hc⟩ := List.mem_flatMap.1 hc
    obtain ⟨hword, d, hupper, hd, -⟩ := hupper p hp
    rw [cased, hupper] at hc
    split at hc
    · rwa [List.mem_singleton.1 hc]
    · rwa [List.mem_singleton.1 hc]
  · intro c hc
    rw [head?_pascalCase] at hc
    obtain ⟨p, hp, hc⟩ := Option.bind_eq_some_iff.1 hc
    obtain ⟨-, d, hupper, -, hd⟩ := hupper p (List.mem_of_head? hp)
    rw [hupper] at hc
    obtain rfl := Option.some.inj hc
    exact hd

end SchemaGo.Text
