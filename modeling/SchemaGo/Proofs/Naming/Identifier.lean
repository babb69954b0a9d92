import SchemaGo.Proofs.Naming.Escape
import SchemaGo.Proofs.Text.Category

/-! Names and identifiers. An exported identifier starts with a capital and goes on with letters, decimal
digits and underscores. Every name of a text of ASCII is one. Other texts have letters without case, digits
that are not escaped in front, and characters that count as letters or numbers but stand in no identifier, so
which texts have such a name goes by their letters. -/

namespace SchemaGo

open Text (cased isCapital isIdentifierChar isWord letters pascalCase toList_pascalCase upper)

/-- The name starts with a capital and holds only characters of identifiers. -/
def IsExported (name : String) : Prop :=
  name.toList.head?.any isCapital ∧ ∀ c ∈ name.toList, isIdentifierChar c

instance (name : String) : Decidable (IsExported name) :=
  decidable_of_iff (name.toList.head?.any isCapital ∧ name.toList.all isIdentifierChar)
    (and_congr_right fun _ => List.all_eq_true)

/-- The letters and numbers of the text make up an exported identifier. -/
structure Exportable (s : String) : Prop where
  /-- Each of them is spelled with characters of identifiers, those that begin words in upper case. -/
  spelled : ∀ p ∈ letters true s.toList, ∀ c ∈ cased p, isIdentifierChar c
  /-- The first is a digit of ASCII, which is escaped, or has a capital in front of its upper case. -/
  first : ∀ p ∈ (letters true s.toList).head?, p.2.isDigit ∨ (upper p.2).head?.any isCapital

/-! ### Digits in front -/

/-- The digits of ASCII are their own upper case, and no other character has one in its upper case. -/
theorem head_upper_isDigit (c : Char) : (upper c).head?.any Char.isDigit = c.isDigit := by
  by_cases hdigit : c.isDigit = true
  · rw [(Text.upper_digit hdigit).2]
    rfl
  · have hnot : c.isDigit = false := by simpa using hdigit
    have hupper : ∀ d ∈ upper c, d.isDigit = false :=
      Text.forall_mem_mapCase (by decide +kernel) (by decide +kernel) fun _ => hnot
    rw [hnot, Option.any_eq_false]
    exact fun d hd => by simp [hupper d (List.mem_of_head? hd)]

theorem startsWithDigit_pascalCase (s : String) :
    startsWithDigit (pascalCase s) = (letters true s.toList).head?.any fun p => p.2.isDigit := by
  rw [startsWithDigit, Text.head?_pascalCase]
  cases (letters true s.toList).head? with
  | none => rfl
  | some p => simpa using head_upper_isDigit p.2

/-! ### Exported names -/

theorem forall_mem_pascalCase_iff (P : Char → Prop) (s : String) :
    (∀ c ∈ (pascalCase s).toList, P c) ↔ ∀ p ∈ letters true s.toList, ∀ c ∈ cased p, P c := by
  rw [toList_pascalCase]
  simp only [List.mem_flatMap, forall_exists_index, and_imp]
  exact ⟨fun h p hp c hc => h c p hp hc, fun h c p hp hc => h p hp c hc⟩

theorem isExported_typeName_iff {s : String} (h : pascalCase s ≠ "") :
    IsExported (typeName s) ↔ Exportable s := by
  have hspelled := forall_mem_pascalCase_iff (fun c => isIdentifierChar c = true) s
  have hhead := Text.head?_pascalCase s
  obtain ⟨p, hp⟩ : ∃ p, (letters true s.toList).head? = some p := by
    cases hletters : letters true s.toList with
    | nil => exact absurd (Text.pascalCase_eq_empty_iff.2 hletters) h
    | cons p ps => exact ⟨p, rfl⟩
  have hdigit := startsWithDigit_pascalCase s
  rw [hp] at hhead hdigit
  rw [typeName_eq, hdigit]
  simp only [Option.any_some, Option.bind_some] at hhead hdigit ⊢
  split
  · next hfirst =>
    -- the letter in front of an escaped name is a capital
    have hN : isCapital 'N' = true ∧ isIdentifierChar 'N' = true := by decide +kernel
    have hescaped : IsExported ("N" ++ pascalCase s) ↔ ∀ c ∈ (pascalCase s).toList, isIdentifierChar c := by
      simp [IsExported, hN]
    rw [hescaped, hspelled]
    refine ⟨fun hchars => ⟨hchars, fun q hq => .inl ?_⟩, fun hexportable => hexportable.spelled⟩
    obtain rfl := Option.some.inj (hp.symm.trans hq)
    exact hfirst
  · next hfirst =>
    rw [IsExported, hhead, hspelled]
    refine ⟨fun ⟨hcapital, hchars⟩ => ⟨hchars, fun q hq => .inr ?_⟩, fun hexportable =>
      ⟨(hexportable.first p hp).resolve_left hfirst, hexportable.spelled⟩⟩
    obtain rfl := Option.some.inj (hp.symm.trans hq)
    exact hcapital

theorem exportable_of_empty {s : String} (h : pascalCase s = "") : Exportable s := by
  have hletters := Text.pascalCase_eq_empty_iff.1 h
  exact ⟨by simp [hletters], by simp [hletters]⟩

/-- The letters and numbers of ASCII are spelled with characters of identifiers, and the letters have
capitals. -/
theorem exportable_of_ascii {s : String} (ascii : ∀ c ∈ s.toList, c.toNat < 128) : Exportable s := by
  have hchars : ∀ p ∈ letters true s.toList, isIdentifierChar p.2 = true ∧
      (upper p.2).all isIdentifierChar = true ∧ (p.2.isDigit ∨ (upper p.2).head?.any isCapital) := by
    intro p hp
    obtain ⟨hmem, hword⟩ := Text.mem_of_mem_letters hp
    exact Text.forall_ascii (P := fun c => isWord c = true → isIdentifierChar c = true ∧
      (upper c).all isIdentifierChar = true ∧ (c.isDigit ∨ (upper c).head?.any isCapital))
      (by decide +kernel) (ascii p.2 hmem) hword
  refine ⟨fun p hp c hc => ?_, fun p hp => (hchars p (List.mem_of_head? hp)).2.2⟩
  unfold cased at hc
  split at hc
  · exact List.all_eq_true.1 (hchars p hp).2.1 c hc
  · obtain rfl := List.mem_singleton.1 hc
    exact (hchars p hp).1

/-- A name is an exported identifier exactly if the letters and numbers of its text make up one, as those of
every text of ASCII do. -/
theorem isExported_iff (s : String) :
    (IsExported (fieldName s) ↔ Exportable s) ∧
      (typeName s = "" ∨ IsExported (typeName s) ↔ Exportable s) ∧
      ((∀ c ∈ s.toList, c.toNat < 128) → Exportable s) := by
  refine ⟨?_, ?_, exportable_of_ascii⟩
  · rw [fieldName_eq]
    split
    · next hempty => simpa [exportable_of_empty hempty] using (by decide +kernel : IsExported "Field")
    · next hne => exact isExported_typeName_iff hne
  · rw [typeName_eq_empty_iff]
    by_cases hempty : pascalCase s = ""
    · simp [hempty, exportable_of_empty hempty]
    · simp [hempty, isExported_typeName_iff hempty]

theorem isExported_iff_numbered :
    (∀ c ∈ "3d-model".toList, c.toNat < 128) ∧ IsExported (fieldName "3d-model") := by
  have ascii : ∀ c ∈ "3d-model".toList, c.toNat < 128 := by simp
  obtain ⟨hfield, -, hascii⟩ := isExported_iff "3d-model"
  exact ⟨ascii, hfield.2 (hascii ascii)⟩

/-- A digit of another script is not escaped in front, a letter without case is no capital, a superscript is
no decimal digit, and the upper case of a letter may carry a mark. -/
theorem names_not_exported :
    ¬ (∀ s, IsExported (fieldName s) ∧ (typeName s ≠ "" → IsExported (typeName s))) ∧
      (∀ s ∈ ["٣d", "日本", "x²", "ǰ"], typeName s ≠ "" ∧ ¬ IsExported (typeName s) ∧
        ¬ IsExported (fieldName s)) ∧
      typeName "٣d" = "٣d" ∧ fieldName "٣d" = "٣d" := by
  have hnames : ∀ s ∈ ["٣d", "日本", "x²", "ǰ"], typeName s ≠ "" ∧ ¬ IsExported (typeName s) ∧
      ¬ IsExported (fieldName s) := by
    decide +kernel
  exact ⟨fun h => (hnames "٣d" (by simp)).2.2 (h "٣d").1, hnames, by decide +kernel, by decide +kernel⟩

end SchemaGo
