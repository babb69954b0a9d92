import Mathlib.Data.List.Chain
import SchemaGo.Text.Words
import SchemaGo.Proofs.Text.Letter

/-! Names in snake case by their letters. Such a name has the letters and numbers of a text in their order,
in lower case, and single underscores between them. None stands at an end, so a text without letters and
numbers has no name, and no other text has an empty one. A name of small letters and numbers is its own
name, and the names of ASCII texts are such. -/

namespace SchemaGo.Text

/-! ### Letters -/

theorem filter_separate (out : List Char) :
    (separate out).filter (· ≠ '_') = out.filter (· ≠ '_') := by
  cases out with
  | nil => rfl
  | cons c out =>
    rw [separate]
    split
    · rfl
    · simp

theorem underscore_not_mem_lower {c : Char} (h : isWord c = true) : '_' ∉ lower c :=
  (unmarked_lower (outside_of_isWord h)).not_mem (by decide)

theorem filter_lower {c : Char} (h : isWord c = true) : (lower c).filter (· ≠ '_') = lower c := by
  rw [List.filter_eq_self]
  rintro d hd
  have hne : d ≠ '_' := by
    rintro rfl
    exact underscore_not_mem_lower h hd
  simpa using hne

/-- Without its underscores a name is made of the letters and numbers in lower case. -/
theorem filter_snakeFrom (before : Option Char) (out l : List Char) :
    (snakeFrom before out l).filter (· ≠ '_') =
      ((l.filter isWord).flatMap lower).reverse ++ out.filter (· ≠ '_') := by
  induction l generalizing before out with
  | nil => rfl
  | cons c cs ih =>
    rw [snakeFrom]
    split
    · next hword => rw [ih, filter_separate, List.filter_cons_of_neg (by simpa using hword)]
    · next hword =>
      have hc : isWord c = true := by simpa using hword
      have hstep : ∀ out : List Char, ((lower c).reverse ++ out).filter (· ≠ '_') =
          (lower c).reverse ++ out.filter (· ≠ '_') := by
        intro out
        rw [List.filter_append, List.filter_reverse, filter_lower hc]
      rw [List.filter_cons_of_pos hc, List.flatMap_cons, List.reverse_append, List.append_assoc]
      split
      · rw [ih, hstep, filter_separate]
      · rw [ih, hstep]

theorem filter_snakeCase (s : String) :
    (snakeCase s).toList.filter (· ≠ '_') = (s.toList.filter isWord).flatMap lower := by
  have hfilter := filter_snakeFrom none [] s.toList
  rw [List.filter_nil, List.append_nil] at hfilter
  rw [snakeCase, String.toList_ofList, List.filter_reverse, List.reverse_eq_iff, ← hfilter]
  generalize snakeFrom none [] s.toList = out
  -- only underscores are dropped
  have hdropped : (out.takeWhile (· = '_')).filter (· ≠ '_') = [] := by
    rw [List.filter_eq_nil_iff]
    intro c hc
    simpa using List.all_eq_true.1 List.all_takeWhile c hc
  conv_rhs => rw [← List.takeWhile_append_dropWhile (p := (· = '_')) (l := out), List.filter_append]
  rw [hdropped, List.nil_append]

theorem mem_snakeCase {s : String} {c : Char} (h : c ∈ (snakeCase s).toList) :
    c = '_' ∨ ∃ d ∈ s.toList, isWord d = true ∧ c ∈ lower d := by
  by_cases hc : c = '_'
  · exact .inl hc
  · have hmem : c ∈ (snakeCase s).toList.filter (· ≠ '_') := List.mem_filter.2 ⟨h, by simpa using hc⟩
    rw [filter_snakeCase] at hmem
    obtain ⟨d, hd, hlower⟩ := List.mem_flatMap.1 hmem
    obtain ⟨hmem, hword⟩ := List.mem_filter.1 hd
    exact .inr ⟨d, hmem, hword, hlower⟩

theorem fromDigits_snakeCase (s : String) : FromDigits (snakeCase s).toList := by
  intro c hc
  rcases mem_snakeCase hc with rfl | ⟨d, -, hword, hlower⟩
  · decide
  · exact fromDigits_lower hword c hlower

/-! ### Ends -/

theorem getLast?_separate (out : List Char) : (separate out).getLast? = out.getLast? := by
  cases out with
  | nil => rfl
  | cons c out =>
    rw [separate]
    split
    · rfl
    · simp [List.getLast?_cons_cons]

/-- Letters come before the first underscore. -/
theorem getLast?_snakeFrom (before : Option Char) {out : List Char} (h : out.getLast? ≠ some '_')
    (l : List Char) : (snakeFrom before out l).getLast? ≠ some '_' := by
  induction l generalizing before out with
  | nil => exact h
  | cons c cs ih =>
    rw [snakeFrom]
    split
    · exact ih _ (by rwa [getLast?_separate])
    · next hword =>
      have hlower : ∀ out : List Char, out.getLast? ≠ some '_' →
          ((lower c).reverse ++ out).getLast? ≠ some '_' := by
        intro out hout
        rw [List.getLast?_append]
        cases hlast : out.getLast? with
        | some d => simpa [hlast] using hout
        | none =>
          intro hhead
          have hmem : '_' ∈ lower c := List.mem_of_head? (by simpa using hhead)
          exact underscore_not_mem_lower (by simpa using hword) hmem
      split
      · exact ih _ (hlower _ (by rwa [getLast?_separate]))
      · exact ih _ (hlower _ h)

theorem head?_snakeCase (s : String) : (snakeCase s).toList.head? ≠ some '_' := by
  have hlast := getLast?_snakeFrom none (by simp : [].getLast? ≠ some '_') s.toList
  rw [snakeCase, String.toList_ofList, List.head?_reverse]
  generalize snakeFrom none [] s.toList = out at hlast
  intro hdropped
  obtain ⟨front, hfront⟩ := List.dropWhile_suffix (l := out) (· = '_')
  rw [← hfront, List.getLast?_append, hdropped] at hlast
  exact hlast rfl

theorem getLast?_snakeCase (s : String) : (snakeCase s).toList.getLast? ≠ some '_' := by
  rw [snakeCase, String.toList_ofList, List.getLast?_reverse]
  intro hhead
  have hnot := List.head?_dropWhile_not (· = '_') (snakeFrom none [] s.toList)
  rw [hhead] at hnot
  simp at hnot

/-- A text has an empty name exactly if it has no letter and no number. -/
theorem snakeCase_eq_empty_iff {s : String} : snakeCase s = "" ↔ ∀ c ∈ s.toList, isWord c = false := by
  have hfilter := filter_snakeCase s
  rw [← String.toList_eq_nil_iff]
  constructor
  · intro hempty c hc
    rw [hempty, List.filter_nil, eq_comm, List.flatMap_eq_nil_iff] at hfilter
    by_contra hword
    exact lower_ne_nil c (hfilter c (List.mem_filter.2 ⟨hc, by simpa using hword⟩))
  · intro hnone
    have hwords : s.toList.filter isWord = [] := by simpa [List.filter_eq_nil_iff] using hnone
    rw [hwords, List.flatMap_nil, List.filter_eq_nil_iff] at hfilter
    cases hlist : (snakeCase s).toList with
    | nil => rfl
    | cons c cs =>
      have hc : c = '_' := by simpa [hlist] using hfilter c (by simp [hlist])
      exact absurd (by rw [hlist, hc]; rfl) (head?_snakeCase s)

/-! ### Rows of underscores -/

/-- Not both characters are underscores. -/
def Apart (a b : Char) : Prop :=
  ¬ (a = '_' ∧ b = '_')

theorem isChain_cons_of_ne {c : Char} (hc : c ≠ '_') {out : List Char} (h : out.IsChain Apart) :
    (c :: out).IsChain Apart :=
  List.isChain_cons.2 ⟨fun _ _ hboth => hc hboth.1, h⟩

theorem isChain_separate {out : List Char} (h : out.IsChain Apart) : (separate out).IsChain Apart := by
  cases out with
  | nil => exact h
  | cons c out =>
    rw [separate]
    split
    · exact h
    · next hc =>
      refine List.isChain_cons.2 ⟨?_, h⟩
      rintro d ⟨⟩ hboth
      exact hc hboth.2

theorem isChain_append_of_not_mem {l : List Char} (hl : '_' ∉ l) {out : List Char}
    (h : out.IsChain Apart) : (l ++ out).IsChain Apart := by
  induction l with
  | nil => exact h
  | cons c cs ih =>
    rw [List.mem_cons, not_or] at hl
    exact isChain_cons_of_ne (Ne.symm hl.1) (ih hl.2)

/-- An underscore is put only behind something else. -/
theorem isChain_snakeFrom (before : Option Char) {out : List Char} (h : out.IsChain Apart) (l : List Char) :
    (snakeFrom before out l).IsChain Apart := by
  induction l generalizing before out with
  | nil => exact h
  | cons c cs ih =>
    rw [snakeFrom]
    split
    · exact ih _ (isChain_separate h)
    · next hword =>
      have hlower : '_' ∉ (lower c).reverse := by
        simpa using underscore_not_mem_lower (by simpa using hword)
      split
      · exact ih _ (isChain_append_of_not_mem hlower (isChain_separate h))
      · exact ih _ (isChain_append_of_not_mem hlower h)

theorem isChain_snakeCase (s : String) : (snakeCase s).toList.IsChain Apart := by
  have hchain := (isChain_snakeFrom none List.isChain_nil s.toList).suffix (List.dropWhile_suffix (· = '_'))
  rw [snakeCase, String.toList_ofList, List.isChain_reverse]
  exact hchain.imp fun _ _ happart hboth => happart hboth.symm

/-! ### Names of names -/

/-- No underscore stands at an end, and no two stand in a row. -/
structure IsSnake (t : List Char) : Prop where
  head : t.head? ≠ some '_'
  last : t.getLast? ≠ some '_'
  single : ¬ ['_', '_'] <:+: t

theorem isSnake_snakeCase (s : String) : IsSnake (snakeCase s).toList where
  head := head?_snakeCase s
  last := getLast?_snakeCase s
  single := by
    rintro ⟨before, behind, heq⟩
    have hsplit : (snakeCase s).toList = before ++ '_' :: '_' :: behind := by rw [← heq]; simp
    exact List.isChain_iff_forall_rel_of_append_cons_cons.1 (isChain_snakeCase s) hsplit ⟨rfl, rfl⟩

theorem IsSnake.isChain {t : List Char} (h : IsSnake t) : t.IsChain Apart := by
  rw [List.isChain_iff_forall_rel_of_append_cons_cons]
  rintro a b before behind rfl ⟨rfl, rfl⟩
  exact h.single ⟨before, behind, by simp⟩

/-- A letter or number that is no capital and has no other lower case. -/
structure IsSmall (c : Char) : Prop where
  word : isWord c = true
  notUpper : isUpper c = false
  lower_eq : lower c = [c]

instance (c : Char) : Decidable (IsSmall c) :=
  decidable_of_iff (isWord c = true ∧ isUpper c = false ∧ lower c = [c])
    ⟨fun ⟨hword, hupper, hlower⟩ => ⟨hword, hupper, hlower⟩, fun h => ⟨h.word, h.notUpper, h.lower_eq⟩⟩

theorem not_isWord_underscore : isWord '_' = false := by
  rw [Bool.eq_false_iff]
  intro hword
  exact absurd (outside_of_isWord hword) (by decide)

theorem IsSmall.ne_underscore {c : Char} (h : IsSmall c) : c ≠ '_' := by
  rintro rfl
  simpa [not_isWord_underscore] using h.word

/-- Small letters and numbers and the single underscores between them are taken over. -/
theorem snakeFrom_of_small (before : Option Char) {out t : List Char}
    (hsmall : ∀ c ∈ t, c = '_' ∨ IsSmall c) (hchain : t.IsChain Apart)
    (hstart : t.head? = some '_' → ∃ c cs, out = c :: cs ∧ c ≠ '_') :
    snakeFrom before out t = t.reverse ++ out := by
  induction t generalizing before out with
  | nil => rfl
  | cons c t ih =>
    obtain ⟨hc, ht⟩ := List.forall_mem_cons.1 hsmall
    obtain ⟨hnext, hrest⟩ := List.isChain_cons.1 hchain
    rw [snakeFrom, List.reverse_cons, List.append_assoc, List.singleton_append]
    rcases hc with rfl | hc
    · obtain ⟨d, ds, rfl, hd⟩ := hstart rfl
      rw [if_pos (by simp [not_isWord_underscore]), separate, if_neg hd]
      -- behind an underscore there is none
      exact ih _ ht hrest fun hhead => absurd ⟨rfl, rfl⟩ (hnext '_' hhead)
    · rw [if_neg (by simp [hc.word]), if_neg (by simp [hc.notUpper]), hc.lower_eq]
      exact ih _ ht hrest fun _ => ⟨c, out, rfl, hc.ne_underscore⟩

/-- A name of small letters and numbers is its own name. -/
theorem IsSnake.snakeCase_eq {s : String} (h : IsSnake s.toList)
    (hsmall : ∀ c ∈ s.toList, c = '_' ∨ IsSmall c) : snakeCase s = s := by
  have hfrom : snakeFrom none [] s.toList = s.toList.reverse ++ [] :=
    snakeFrom_of_small none hsmall h.isChain fun hhead => absurd hhead h.head
  have hlast : s.toList.reverse.head? ≠ some '_' := by
    rw [List.head?_reverse]
    exact h.last
  rw [List.append_nil] at hfrom
  rw [← String.toList_inj, snakeCase, String.toList_ofList, hfrom]
  cases hreverse : s.toList.reverse with
  | nil => simpa using hreverse.symm
  | cons c cs =>
    rw [hreverse] at hlast
    rw [List.dropWhile_cons_of_neg (by simpa using hlast), ← hreverse, List.reverse_reverse]

/-- The lower case of a letter or number of ASCII is a small one. -/
theorem lower_ascii {c : Char} (hc : c.toNat < 128) (hword : isWord c = true) :
    ∃ d, lower c = [d] ∧ IsSmall d :=
  ⟨c.toLower, forall_ascii (P := fun c => isWord c = true → lower c = [c.toLower] ∧ IsSmall c.toLower)
    (by decide +kernel) hc hword⟩

theorem small_snakeCase {s : String} (ascii : ∀ c ∈ s.toList, c.toNat < 128) :
    ∀ c ∈ (snakeCase s).toList, c = '_' ∨ IsSmall c := by
  intro c hc
  rcases mem_snakeCase hc with hmark | ⟨d, hmem, hword, hlower⟩
  · exact .inl hmark
  · obtain ⟨e, heq, hsmall⟩ := lower_ascii (ascii d hmem) hword
    rw [heq, List.mem_singleton] at hlower
    exact .inr (hlower ▸ hsmall)

/-- A name has the letters and numbers of the text in lower case, with single underscores between them,
and the name of an ASCII text is its own name. -/
theorem snake_case_spelled (s : String) :
    IsSnake (snakeCase s).toList ∧
      (snakeCase s).toList.filter (· ≠ '_') = (s.toList.filter isWord).flatMap lower ∧
      ((∀ c ∈ s.toList, c.toNat < 128) → snakeCase (snakeCase s) = snakeCase s) :=
  ⟨isSnake_snakeCase s, filter_snakeCase s, fun ascii =>
    (isSnake_snakeCase s).snakeCase_eq (small_snakeCase ascii)⟩

/-- The row of capitals ends in front of the last one, and a digit does not begin a word. -/
theorem snake_case_spelled_server :
    (∀ c ∈ "HTTPServer2Go__x-".toList, c.toNat < 128) ∧
      snakeCase "HTTPServer2Go__x-" = "http_server2_go_x" ∧
      snakeCase "http_server2_go_x" = "http_server2_go_x" := by
  have ascii : ∀ c ∈ "HTTPServer2Go__x-".toList, c.toNat < 128 := by simp
  have hname : snakeCase "HTTPServer2Go__x-" = "http_server2_go_x" := by decide +kernel
  obtain ⟨-, -, hfixed⟩ := snake_case_spelled "HTTPServer2Go__x-"
  rw [hname] at hfixed
  exact ⟨ascii, hname, hfixed ascii⟩

end SchemaGo.Text
