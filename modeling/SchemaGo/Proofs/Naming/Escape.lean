import SchemaGo.Proofs.Text.Words

/-! Names that need no escape. No name in Pascal case is a keyword, since these start with small letters, so
only names that start with a digit are escaped, and the letter in front of an escaped name is none. A type
name or a field name is therefore safe as it is, and the names of texts of ASCII do not change when they are
taken for names again. -/

namespace SchemaGo

open Text (IsName isWord pascalCase upper)

/-- The name starts with a digit of ASCII. -/
def startsWithDigit (name : String) : Bool :=
  name.toList.head?.any Char.isDigit

/-- No keyword starts with anything but a small letter. -/
theorem not_isReserved {name : String} (h : ∀ c ∈ name.toList.head?, c.isLower = false) :
    Naming.exported.isReserved name = false := by
  have hkeywords : ∀ word ∈ keywords, word.toList.head?.any Char.isLower := by decide +kernel
  simp only [Naming.isReserved, decide_eq_false_iff_not]
  intro hmem
  obtain ⟨c, hc, hlower⟩ := (Option.any_eq_true _ _).1 (hkeywords name hmem)
  simp [h c hc] at hlower

/-- A name that no small letter starts is escaped only for a digit in front. -/
theorem needsEscape_eq {name : String} (h : ∀ c ∈ name.toList.head?, c.isLower = false) :
    Naming.exported.needsEscape name = startsWithDigit name := by
  rw [Naming.needsEscape, not_isReserved h, Bool.false_or, startsWithDigit]

theorem safeUnlessEmpty_eq {name : String} (h : ∀ c ∈ name.toList.head?, c.isLower = false) :
    Naming.exported.safeUnlessEmpty name = if startsWithDigit name then "N" ++ name else name := by
  rw [Naming.safeUnlessEmpty]
  split
  · next hempty =>
    obtain rfl := String.isEmpty_iff.1 hempty
    rfl
  · rw [Naming.safeName, needsEscape_eq h]
    rfl

theorem typeName_eq (id : String) :
    typeName id = if startsWithDigit (pascalCase id) then "N" ++ pascalCase id else pascalCase id :=
  safeUnlessEmpty_eq fun _ => not_isLower_head_pascalCase

theorem fieldName_eq (key : String) :
    fieldName key = if pascalCase key = "" then "Field" else typeName key := by
  change Naming.exported.safeUnlessEmpty (exportedField key) = _
  rw [exportedField]
  split
  · next hempty =>
    rw [if_pos (String.isEmpty_iff.1 hempty)]
    decide
  · next hname =>
    rw [if_neg (by simpa using hname)]
    rfl

theorem typeName_eq_empty_iff (id : String) : typeName id = "" ↔ pascalCase id = "" := by
  rw [typeName_eq]
  split
  · next hdigit =>
    have hne : pascalCase id ≠ "" := by
      rintro hempty
      simp [hempty, startsWithDigit] at hdigit
    simp [hne, ← String.toList_eq_nil_iff]
  · rfl

theorem needsEscape_typeName (id : String) : Naming.exported.needsEscape (typeName id) = false := by
  rw [needsEscape_eq fun _ => head?_typeName, typeName_eq]
  split
  · simp [startsWithDigit]
  · next hdigit => simpa using hdigit

theorem needsEscape_fieldName (key : String) : Naming.exported.needsEscape (fieldName key) = false := by
  rw [fieldName_eq]
  split
  · decide
  · exact needsEscape_typeName key

theorem fieldName_ne_empty (key : String) : fieldName key ≠ "" := by
  rw [fieldName_eq]
  split
  · decide
  · next hne => exact fun h => hne ((typeName_eq_empty_iff key).1 h)

/-! ### Names of names -/

theorem isName_typeName {id : String} (ascii : ∀ c ∈ id.toList, c.toNat < 128) :
    IsName (typeName id).toList := by
  have hname := Text.isName_pascalCase ascii
  rw [typeName_eq]
  split
  · simpa using hname.cons (c := 'N') (by decide +kernel) (by decide +kernel)
  · exact hname

/-- A name that needs no escape is the type name of itself. -/
theorem typeName_eq_self {s : String} (h : IsName s.toList)
    (safe : Naming.exported.needsEscape s = false) : typeName s = s := by
  change Naming.exported.safeUnlessEmpty (pascalCase s) = s
  simp [h.pascalCase_eq, Naming.safeUnlessEmpty, Naming.safeName, safe]

theorem fieldName_eq_self {s : String} (h : IsName s.toList)
    (safe : Naming.exported.needsEscape s = false) (hne : s ≠ "") : fieldName s = s := by
  rw [fieldName_eq, h.pascalCase_eq, if_neg hne, typeName_eq_self h safe]

/-- A text has a type name exactly if it has a letter or a number, and always a field name. Neither needs an
escape, and both stay as they are when a name is taken of them, if the text is of ASCII. -/
theorem names_usable (s : String) :
    (typeName s = "" ↔ ∀ c ∈ s.toList, isWord c = false) ∧
      Naming.exported.needsEscape (typeName s) = false ∧
      Naming.exported.needsEscape (fieldName s) = false ∧ fieldName s ≠ "" ∧
      ((∀ c ∈ s.toList, c.toNat < 128) →
        typeName (typeName s) = typeName s ∧ fieldName (fieldName s) = fieldName s) := by
  refine ⟨?_, needsEscape_typeName s, needsEscape_fieldName s, fieldName_ne_empty s, fun ascii => ⟨?_, ?_⟩⟩
  · rw [typeName_eq_empty_iff, Text.pascalCase_eq_empty_iff, Text.letters_eq_nil_iff]
  · exact typeName_eq_self (isName_typeName ascii) (needsEscape_typeName s)
  · have hname : IsName (fieldName s).toList := by
      rw [fieldName_eq]
      split
      · decide +kernel
      · exact isName_typeName ascii
    exact fieldName_eq_self hname (needsEscape_fieldName s) (fieldName_ne_empty s)

theorem names_usable_numbered :
    (∀ c ∈ "3d-model".toList, c.toNat < 128) ∧ typeName "3d-model" = "N3dModel" ∧
      typeName "N3dModel" = "N3dModel" ∧ fieldName "N3dModel" = "N3dModel" := by
  have ascii : ∀ c ∈ "3d-model".toList, c.toNat < 128 := by simp
  have htype : typeName "3d-model" = "N3dModel" := by decide +kernel
  have hfield : fieldName "3d-model" = "N3dModel" := by decide +kernel
  obtain ⟨-, -, -, -, hself⟩ := names_usable "3d-model"
  rw [htype, hfield] at hself
  exact ⟨ascii, htype, hself ascii⟩

end SchemaGo
