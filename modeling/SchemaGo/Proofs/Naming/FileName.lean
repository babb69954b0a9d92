import SchemaGo.Proofs.Naming.Escape
import SchemaGo.Proofs.Text.Snake

/-! File names. The file of a type is named after the type name in snake case. A type name has a letter or
a number in every spelling, so the stem of its file is not empty, and since separators and dots are no
letters the stem has none of them, whatever the text that the type is named after. -/

namespace SchemaGo

open Text (cased exists_word_upper isWord letters pascalCase snakeCase toList_pascalCase upper)

/-- The stem of the name of one file: no part of a path, no ending and no null character is in it, and no
underscore stands at an end. -/
structure IsStem (stem : String) : Prop where
  ne_empty : stem ≠ ""
  plain : ∀ c ∈ stem.toList, c ≠ '/' ∧ c ≠ '\\' ∧ c ≠ '.' ∧ c ≠ '\x00'
  head : stem.toList.head? ≠ some '_'
  last : stem.toList.getLast? ≠ some '_'

theorem isStem_snakeCase {s : String} (h : ∃ c ∈ s.toList, isWord c = true) : IsStem (snakeCase s) where
  ne_empty := by
    obtain ⟨c, hc, hword⟩ := h
    intro hempty
    simp [Text.snakeCase_eq_empty_iff.1 hempty c hc] at hword
  plain := by
    have hdigits := Text.fromDigits_snakeCase s
    intro c hc
    have hback : c ≠ '\\' := by
      rintro rfl
      rcases Text.mem_snakeCase hc with hmark | ⟨d, -, hword, hlower⟩
      · exact absurd hmark (by decide)
      · exact (Text.unmarked_lower (Text.outside_of_isWord hword)).not_mem (by decide) hlower
    have hle := hdigits c hc
    refine ⟨?_, hback, ?_, ?_⟩ <;> rintro rfl <;> exact absurd hle (by decide)
  head := Text.head?_snakeCase s
  last := Text.getLast?_snakeCase s

/-- A name in Pascal case begins with the upper case of a letter or number, which has one. -/
theorem exists_word_pascalCase {s : String} (h : pascalCase s ≠ "") :
    ∃ c ∈ (pascalCase s).toList, isWord c = true := by
  cases hletters : letters true s.toList with
  | nil => exact absurd (Text.pascalCase_eq_empty_iff.2 hletters) h
  | cons p ps =>
    obtain ⟨-, hword⟩ := Text.mem_of_mem_letters (hletters ▸ List.mem_cons_self : p ∈ letters true s.toList)
    obtain ⟨d, hd, hdword⟩ := exists_word_upper hword
    have hstart : p.1 = true := Text.fst_of_head?_letters (by rw [hletters]; rfl)
    refine ⟨d, ?_, hdword⟩
    rw [toList_pascalCase, hletters, List.flatMap_cons, cased, if_pos hstart]
    exact List.mem_append_left _ hd

theorem exists_word_typeName {id : String} (h : typeName id ≠ "") :
    ∃ c ∈ (typeName id).toList, isWord c = true := by
  obtain ⟨c, hc, hword⟩ := exists_word_pascalCase (mt (typeName_eq_empty_iff id).2 h)
  refine ⟨c, ?_, hword⟩
  rw [typeName_eq]
  split
  · rw [String.toList_append]
    exact List.mem_append_right _ hc
  · exact hc

theorem isStem_typeName {id : String} (h : typeName id ≠ "") : IsStem (snakeCase (typeName id)) :=
  isStem_snakeCase (exists_word_typeName h)

theorem fileName_eq (type : String) : fileName type = snakeCase type ++ ".go" :=
  rfl

end SchemaGo
