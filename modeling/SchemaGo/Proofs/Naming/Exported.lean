import SchemaGo.Naming.Exported
import SchemaGo.Proofs.Text.Letter

/-! The characters of exported names. They are letters and numbers of a document or what the case mappings
make of them, so a name ends no line and has no blank, star, dot or slash, no bracket and no backquote. A
type name starts with no small letter of ASCII, so it is not written like a built-in type. -/

namespace SchemaGo

namespace Text

/-- What holds of every letter and number and of its upper case holds of a name in Pascal case. -/
theorem forall_mem_pascalCase {P : Char → Prop} (hword : ∀ c, isWord c = true → P c)
    (hupper : ∀ c, isWord c = true → ∀ d ∈ upper c, P d) (s : String) :
    ∀ c ∈ (pascalCase s).toList, P c := by
  have hfrom : ∀ start l, ∀ c ∈ pascalFrom start l, P c := by
    intro start l
    induction l generalizing start with
    | nil => simp [pascalFrom]
    | cons c cs ih =>
      rw [pascalFrom]
      split
      · next hc =>
        refine List.forall_mem_append.2 ⟨?_, ih false⟩
        split
        · exact hupper c hc
        · simpa using hword c hc
      · exact ih true
  simpa [pascalCase] using hfrom true s.toList

theorem fromDigits_pascalCase (s : String) : FromDigits (pascalCase s).toList :=
  forall_mem_pascalCase (fun _ => le_of_isWord) (fun _ => fromDigits_upper) s

theorem head?_pascalFrom_true {l : List Char} {c : Char} (h : (pascalFrom true l).head? = some c) :
    c.isLower = false := by
  induction l with
  | nil => simp [pascalFrom] at h
  | cons d l ih =>
    rw [pascalFrom] at h
    split at h
    · obtain ⟨e, es, hupper⟩ := List.exists_cons_of_ne_nil (upper_ne_nil d)
      rw [if_pos rfl, hupper] at h
      obtain rfl : e = c := by simpa using h
      exact not_isLower_of_mem_upper (by rw [hupper]; exact List.mem_cons_self)
    · exact ih h

end Text

open Text (FromDigits Unmarked isWord upper)

section

variable {P : Char → Prop}

theorem forall_mem_safeUnlessEmpty (hN : P 'N') {name : String} (h : ∀ c ∈ name.toList, P c) :
    ∀ c ∈ (Naming.exported.safeUnlessEmpty name).toList, P c := by
  unfold Naming.safeUnlessEmpty Naming.safeName
  split
  · exact h
  · split
    · simpa [Naming.exported] using ⟨hN, h⟩
    · exact h

/-- What holds of every letter and number, of its upper case and of the mark of an escaped name holds of
every type name. -/
theorem forall_mem_typeName (hN : P 'N') (hword : ∀ c, isWord c = true → P c)
    (hupper : ∀ c, isWord c = true → ∀ d ∈ upper c, P d) (id : String) : ∀ c ∈ (typeName id).toList, P c :=
  forall_mem_safeUnlessEmpty hN (Text.forall_mem_pascalCase hword hupper id)

theorem forall_mem_fieldName (hN : P 'N') (hField : ∀ c ∈ "Field".toList, P c)
    (hword : ∀ c, isWord c = true → P c) (hupper : ∀ c, isWord c = true → ∀ d ∈ upper c, P d)
    (key : String) : ∀ c ∈ (fieldName key).toList, P c := by
  refine forall_mem_safeUnlessEmpty hN ?_
  show ∀ c ∈ (exportedField key).toList, P c
  unfold exportedField
  dsimp only
  split
  · exact hField
  · exact Text.forall_mem_pascalCase hword hupper key

end

theorem fromDigits_typeName (id : String) : FromDigits (typeName id).toList :=
  forall_mem_typeName (by decide) (fun _ => Text.le_of_isWord) (fun _ => Text.fromDigits_upper) id

theorem fromDigits_fieldName (key : String) : FromDigits (fieldName key).toList :=
  forall_mem_fieldName (by decide) (by simp) (fun _ => Text.le_of_isWord)
    (fun _ => Text.fromDigits_upper) key

theorem oneLine_typeName (id : String) : Text.OneLine (typeName id).toList :=
  (fromDigits_typeName id).oneLine

theorem oneLine_fieldName (key : String) : Text.OneLine (fieldName key).toList :=
  (fromDigits_fieldName key).oneLine

theorem unmarked_typeName (id : String) : Unmarked (typeName id).toList :=
  forall_mem_typeName (by decide) (fun _ => Text.outside_of_isWord)
    (fun _ hc => Text.unmarked_upper (Text.outside_of_isWord hc)) id

theorem unmarked_fieldName (key : String) : Unmarked (fieldName key).toList :=
  forall_mem_fieldName (by decide) (by simp) (fun _ => Text.outside_of_isWord)
    (fun _ hc => Text.unmarked_upper (Text.outside_of_isWord hc)) key

theorem not_isLower_head_pascalCase {s : String} {c : Char}
    (h : (Text.pascalCase s).toList.head? = some c) : c.isLower = false :=
  Text.head?_pascalFrom_true (l := s.toList) (by simpa [Text.pascalCase] using h)

/-- No type name starts with a small letter of ASCII. -/
theorem head?_typeName {id : String} {c : Char} (h : (typeName id).toList.head? = some c) :
    c.isLower = false := by
  change (Naming.exported.safeUnlessEmpty (Text.pascalCase id)).toList.head? = some c at h
  unfold Naming.safeUnlessEmpty Naming.safeName at h
  split at h
  · exact not_isLower_head_pascalCase h
  · split at h
    · obtain rfl : 'N' = c := by simpa [Naming.exported] using h
      rfl
    · exact not_isLower_head_pascalCase h

end SchemaGo
