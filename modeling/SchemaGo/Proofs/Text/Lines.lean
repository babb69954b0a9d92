import Mathlib.Data.List.Basic
import SchemaGo.Text.Basic

/-! The lines of texts that are put together. A newline separates what stands before it from what stands
behind it, except that it takes a carriage return directly before it along. Characters that end no line
go in front of the first line of the rest. -/

namespace SchemaGo.Text

/-- The characters end no line. -/
def OneLine (l : List Char) : Prop :=
  ∀ c ∈ l, c ≠ '\n' ∧ c ≠ '\r'

instance (l : List Char) : Decidable (OneLine l) :=
  List.decidableBAll _ l

/-- The last character, of which there is one, ends no line. -/
def Closed (l : List Char) : Prop :=
  ∃ a c, l = a ++ [c] ∧ c ≠ '\n' ∧ c ≠ '\r'

/-- A line without a carriage return at its end. -/
def withoutReturn : List Char → List Char
  | [] => []
  | c :: cs => if c = '\r' ∧ cs = [] then [] else c :: withoutReturn cs

theorem oneLine_nil : OneLine [] := by
  simp [OneLine]

theorem oneLine_cons {c : Char} {l : List Char} : OneLine (c :: l) ↔ (c ≠ '\n' ∧ c ≠ '\r') ∧ OneLine l :=
  List.forall_mem_cons

theorem oneLine_append {a b : List Char} : OneLine (a ++ b) ↔ OneLine a ∧ OneLine b := by
  simp only [OneLine, List.forall_mem_append]

theorem OneLine.closed {l : List Char} (h : OneLine l) (hne : l ≠ []) : Closed l :=
  ⟨l.dropLast, l.getLast hne, (List.dropLast_concat_getLast hne).symm, h _ (List.getLast_mem hne)⟩

theorem Closed.append {l : List Char} (h : Closed l) (a : List Char) : Closed (a ++ l) := by
  obtain ⟨b, c, rfl, hc⟩ := h
  exact ⟨a ++ b, c, by simp, hc⟩

theorem closed_cons {c : Char} {cs : List Char} (h : Closed (c :: cs)) :
    (cs = [] ∧ c ≠ '\n' ∧ c ≠ '\r') ∨ Closed cs := by
  obtain ⟨a, d, h, hd⟩ := h
  cases a with
  | nil =>
    obtain ⟨rfl, rfl⟩ := List.cons.inj h
    exact .inl ⟨rfl, hd⟩
  | cons e a =>
    obtain ⟨-, rfl⟩ := List.cons.inj h
    exact .inr ⟨a, d, rfl, hd⟩

theorem Closed.behind_newline {cs : List Char} (h : Closed ('\n' :: cs)) : Closed cs := by
  rcases closed_cons h with ⟨-, hc, -⟩ | h
  · exact absurd rfl hc
  · exact h

theorem Closed.behind_return {cs : List Char} (h : Closed ('\r' :: cs)) : Closed cs := by
  rcases closed_cons h with ⟨-, -, hc⟩ | h
  · exact absurd rfl hc
  · exact h

/-! ### Lines of one text -/

theorem lineList_cons {c : Char} {cs : List Char} (hn : c ≠ '\n')
    (hr : ¬ (c = '\r' ∧ cs.head? = some '\n')) :
    lineList (c :: cs) = (c :: (lineList cs).headD []) :: (lineList cs).tail := by
  rw [lineList]
  · cases lineList cs <;> rfl
  · exact hn
  · rintro cs' rfl rfl
    exact hr ⟨rfl, rfl⟩

theorem lineList_ne_nil {l : List Char} (h : l ≠ []) : lineList l ≠ [] := by
  fun_cases lineList l <;> simp_all

/-- Only the empty text has no lines. -/
theorem lines_eq_nil_iff {s : String} : lines s = [] ↔ s = "" := by
  rw [lines, List.map_eq_nil_iff, ← String.toList_eq_nil_iff]
  constructor
  · intro hnone
    by_contra hne
    exact lineList_ne_nil hne hnone
  · intro hempty
    rw [hempty, lineList]

/-- Induction along the ways in which a text goes on. -/
@[elab_as_elim]
theorem lineInduction {P : List Char → Prop} (nil : P []) (newline : ∀ cs, P cs → P ('\n' :: cs))
    (both : ∀ cs, P cs → P ('\r' :: '\n' :: cs))
    (char : ∀ c cs, c ≠ '\n' → ¬ (c = '\r' ∧ cs.head? = some '\n') → P cs → P (c :: cs))
    (l : List Char) : P l := by
  have step : ∀ c cs, c ≠ '\n' → (∀ cs', c = '\r' → cs = '\n' :: cs' → False) → P cs → P (c :: cs) := by
    intro c cs hn hr
    refine char c cs hn ?_
    rintro ⟨hc, hhead⟩
    obtain ⟨cs', rfl⟩ := List.head?_eq_some_iff.1 hhead
    exact hr cs' hc rfl
  fun_induction lineList l with
  | case1 => exact nil
  | case2 cs ih => exact newline cs ih
  | case3 cs ih => exact both cs ih
  | case4 c cs hn hr _ ih => exact step c cs hn hr ih
  | case5 c cs hn hr _ _ _ ih => exact step c cs hn hr ih

theorem lineList_oneLine_append {a : List Char} (ha : OneLine a) (hne : a ≠ []) (b : List Char) :
    lineList (a ++ b) = (a ++ (lineList b).headD []) :: (lineList b).tail := by
  induction a with
  | nil => exact absurd rfl hne
  | cons c a ih =>
    obtain ⟨hn, hr⟩ := ha c (by simp)
    rw [List.cons_append, lineList_cons hn fun h => hr h.1]
    cases a with
    | nil => rfl
    | cons d a =>
      rw [ih (fun c hc => ha c (List.mem_cons_of_mem _ hc)) (by simp)]
      rfl

/-- A text without line ends is its only line. -/
theorem lineList_oneLine {a : List Char} (ha : OneLine a) (hne : a ≠ []) : lineList a = [a] := by
  simpa [lineList] using lineList_oneLine_append ha hne []

theorem lineList_append_newline (a b : List Char) :
    lineList (a ++ '\n' :: b) = lineList (a ++ ['\n']) ++ lineList b := by
  induction a using lineInduction with
  | nil => rfl
  | newline cs ih => simp [lineList, ih]
  | both cs ih => simp [lineList, ih]
  | char c cs hn hr ih =>
    -- a carriage return at the end of `a` belongs to the newline on both sides
    by_cases hend : c = '\r' ∧ cs = []
    · obtain ⟨rfl, rfl⟩ := hend
      rfl
    · have hr' : ∀ b, ¬ (c = '\r' ∧ (cs ++ '\n' :: b).head? = some '\n') := by
        cases cs <;> simp_all
      have hne : lineList (cs ++ ['\n']) ≠ [] := lineList_ne_nil (by simp)
      rw [List.cons_append, List.cons_append, lineList_cons hn (hr' b), lineList_cons hn (hr' []), ih]
      obtain ⟨l, ls, hl⟩ := List.exists_cons_of_ne_nil hne
      simp [hl]

/-- A newline behind a closed text adds no line. -/
theorem lineList_closed {l : List Char} (h : Closed l) : lineList (l ++ ['\n']) = lineList l := by
  induction l using lineInduction with
  | nil => obtain ⟨a, c, h, -⟩ := h; simp at h
  | newline cs ih => simp [lineList, ih h.behind_newline]
  | both cs ih => simp [lineList, ih h.behind_return.behind_newline]
  | char c cs hn hr ih =>
    rcases closed_cons h with ⟨rfl, -, hc⟩ | h
    · rw [List.cons_append, lineList_cons hn fun h => hc h.1, lineList_cons hn hr]
      rfl
    · obtain ⟨d, ds, rfl⟩ : ∃ d ds, cs = d :: ds := by
        obtain ⟨a, d, rfl, -⟩ := h
        exact List.exists_cons_of_ne_nil (by simp)
      rw [List.cons_append, lineList_cons hn hr, lineList_cons hn (by simpa using hr), ih h]

/-- A line of its own loses at most a carriage return at its end. -/
theorem lineList_newline {l : List Char} (h : '\n' ∉ l) :
    lineList (l ++ ['\n']) = [withoutReturn l] := by
  induction l with
  | nil => rfl
  | cons c cs ih =>
    rw [List.mem_cons, not_or] at h
    obtain ⟨hn, hcs⟩ := h
    by_cases hend : c = '\r' ∧ cs = []
    · obtain ⟨rfl, rfl⟩ := hend
      rfl
    · have hr : ¬ (c = '\r' ∧ (cs ++ ['\n']).head? = some '\n') := by
        rintro ⟨hc, hhead⟩
        cases cs with
        | nil => exact hend ⟨hc, rfl⟩
        | cons d ds =>
          obtain rfl : d = '\n' := by simpa using hhead
          simp at hcs
      rw [List.cons_append, lineList_cons (Ne.symm hn) hr, ih hcs, withoutReturn, if_neg hend]
      rfl

theorem newline_not_mem_lineList (s : List Char) : ∀ l ∈ lineList s, '\n' ∉ l := by
  induction s using lineInduction with
  | nil => simp [lineList]
  | newline cs ih => simpa [lineList] using ih
  | both cs ih => simpa [lineList] using ih
  | char c cs hn hr ih =>
    rw [lineList_cons hn hr]
    cases hl : lineList cs with
    | nil => simpa using Ne.symm hn
    | cons l ls =>
      rw [hl, List.forall_mem_cons] at ih
      simpa [Ne.symm hn] using ih

/-- The last line of a closed text is closed. -/
theorem closed_getLast {s : List Char} (h : Closed s) :
    ∃ l, (lineList s).getLast? = some l ∧ Closed l := by
  induction s using lineInduction with
  | nil => obtain ⟨a, c, h, -⟩ := h; simp at h
  | newline cs ih =>
    obtain ⟨l, hl, hclosed⟩ := ih h.behind_newline
    exact ⟨l, by simp [lineList, List.getLast?_cons, hl], hclosed⟩
  | both cs ih =>
    obtain ⟨l, hl, hclosed⟩ := ih h.behind_return.behind_newline
    exact ⟨l, by simp [lineList, List.getLast?_cons, hl], hclosed⟩
  | char c cs hn hr ih =>
    rw [lineList_cons hn hr]
    rcases closed_cons h with ⟨rfl, hc⟩ | h
    · exact ⟨[c], rfl, [], c, rfl, hc⟩
    · obtain ⟨l, hl, hclosed⟩ := ih h
      cases hlines : lineList cs with
      | nil => simp [hlines] at hl
      | cons l' ls =>
        rw [hlines, List.getLast?_cons] at hl
        cases ls with
        | nil =>
          -- the only line so far is the last one, and `c` goes in front of it
          obtain rfl : l' = l := by simpa using hl
          exact ⟨c :: l', rfl, hclosed.append [c]⟩
        | cons m ls => exact ⟨l, by simpa [List.getLast?_cons] using hl, hclosed⟩

/-- A text with a newline at its end, which it gets unless it is empty or has one. -/
def ended (l : List Char) : List Char :=
  if l = [] ∨ l.getLast? = some '\n' then l else l ++ ['\n']

theorem ended_cons {c : Char} {cs : List Char} (h : cs ≠ []) : ended (c :: cs) = c :: ended cs := by
  obtain ⟨d, ds, rfl⟩ := List.exists_cons_of_ne_nil h
  simp only [ended, List.getLast?_cons_cons, List.cons_ne_nil, false_or]
  split <;> rfl

theorem Closed.ended_eq {l : List Char} (h : Closed l) : ended l = l ++ ['\n'] := by
  obtain ⟨a, c, rfl, hc, -⟩ := h
  simp [ended, hc]

/-- The lines of a text without carriage returns, ended again, are the text. -/
theorem flatMap_lineList {s : List Char} (h : '\r' ∉ s) :
    (lineList s).flatMap (· ++ ['\n']) = ended s := by
  induction s using lineInduction with
  | nil => rfl
  | newline cs ih =>
    obtain ⟨-, hcs⟩ := not_or.1 (mt List.mem_cons.2 h)
    rw [lineList, List.flatMap_cons, ih hcs]
    by_cases hne : cs = []
    · subst hne
      rfl
    · rw [ended_cons hne]
      rfl
  | both cs ih => exact absurd List.mem_cons_self h
  | char c cs hn hr ih =>
    obtain ⟨-, hcs⟩ := not_or.1 (mt List.mem_cons.2 h)
    rw [lineList_cons hn hr, List.flatMap_cons]
    by_cases hne : cs = []
    · subst hne
      simp [lineList, ended, hn]
    · obtain ⟨l, ls, hl⟩ := List.exists_cons_of_ne_nil (lineList_ne_nil hne)
      rw [ended_cons hne, ← ih hcs, hl]
      simp

/-! ### Lines of joined texts -/

theorem closed_intercalate {L : List (List Char)} {l : List Char} (h : L.getLast? = some l)
    (hl : Closed l) : Closed (['\n'].intercalate L) := by
  induction L with
  | nil => simp at h
  | cons a r ih =>
    cases r with
    | nil =>
      obtain rfl : a = l := by simpa using h
      simpa using hl
    | cons b r =>
      rw [List.intercalate_cons_cons]
      exact (ih (by simpa using h)).append _

/-- The lines of joined texts, of which the last is closed, are those of each text. -/
theorem lineList_intercalate {L : List (List Char)} (h : ∀ l, L.getLast? = some l → Closed l) :
    lineList (['\n'].intercalate L) = L.flatMap fun l => lineList (l ++ ['\n']) := by
  induction L with
  | nil => rfl
  | cons l r ih =>
    cases r with
    | nil => simpa using (lineList_closed (h l rfl)).symm
    | cons m r =>
      rw [List.intercalate_cons_cons, List.append_assoc, List.singleton_append,
        lineList_append_newline, ih fun a ha => h a (by simpa using ha)]
      rfl

theorem withoutReturn_append {a : List Char} (h : '\r' ∉ a) (b : List Char) :
    withoutReturn (a ++ b) = a ++ withoutReturn b := by
  induction a with
  | nil => rfl
  | cons c a ih =>
    rw [List.mem_cons, not_or] at h
    obtain ⟨hc, ha⟩ := h
    simp [withoutReturn, Ne.symm hc, ih ha]

theorem withoutReturn_closed {l : List Char} (h : Closed l) : withoutReturn l = l := by
  induction l with
  | nil => rfl
  | cons c l ih =>
    rw [withoutReturn]
    rcases closed_cons h with ⟨rfl, -, hc⟩ | h
    · simp [hc, withoutReturn]
    · have hne : l ≠ [] := by
        obtain ⟨a, d, rfl, -⟩ := h
        simp
      rw [if_neg fun hend => hne hend.2, ih h]

theorem mem_of_mem_withoutReturn {l : List Char} {c : Char} (h : c ∈ withoutReturn l) : c ∈ l := by
  induction l with
  | nil => simp [withoutReturn] at h
  | cons d l ih =>
    rw [withoutReturn] at h
    split at h
    · simp at h
    · rcases List.mem_cons.1 h with rfl | h
      · exact List.mem_cons_self
      · exact List.mem_cons_of_mem _ (ih h)

theorem filter_withoutReturn (l : List Char) :
    (withoutReturn l).filter (· ≠ '\r') = l.filter (· ≠ '\r') := by
  induction l with
  | nil => rfl
  | cons c l ih =>
    rw [withoutReturn]
    split
    · next hend => simp [hend]
    · rw [List.filter_cons, List.filter_cons, ih]

/-! ### Characters of lines -/

theorem count_withoutReturn {a : Char} (ha : a ≠ '\r') (l : List Char) :
    (withoutReturn l).count a = l.count a := by
  have hfilter : ∀ l : List Char, (l.filter (· ≠ '\r')).count a = l.count a := fun l =>
    List.count_filter (by simpa using ha)
  rw [← hfilter, filter_withoutReturn, hfilter]

/-- Only line ends are not in the lines. -/
theorem count_lineList {a : Char} (hn : a ≠ '\n') (hr : a ≠ '\r') (s : List Char) :
    (lineList s).flatten.count a = s.count a := by
  induction s using lineInduction with
  | nil => rfl
  | newline cs ih => simp [lineList, ih, Ne.symm hn]
  | both cs ih => simp [lineList, ih, Ne.symm hn, Ne.symm hr]
  | char c cs hcn hcr ih =>
    rw [lineList_cons hcn hcr, List.count_cons, ← ih]
    cases lineList cs <;> simp [List.count_cons]

/-- Joined texts without line ends are the lines. -/
theorem lineList_joined {L : List (List Char)} (h : ∀ l ∈ L, OneLine l ∧ l ≠ []) :
    lineList (['\n'].intercalate L) = L := by
  rw [lineList_intercalate fun l hl => ((h l (List.mem_of_getLast? hl)).1.closed
    (h l (List.mem_of_getLast? hl)).2)]
  conv_rhs => rw [← List.flatMap_singleton' L]
  refine List.flatMap_congr fun l hl => ?_
  obtain ⟨honeLine, hne⟩ := h l hl
  rw [lineList_closed (honeLine.closed hne), lineList_oneLine honeLine hne]

/-- Splitting at the newlines gives back the lines that were ended with them. -/
theorem splitOn_ended {L : List (List Char)} (h : ∀ l ∈ L, '\n' ∉ l) :
    (L.flatMap (· ++ ['\n'])).splitOn '\n' = L ++ [[]] := by
  induction L with
  | nil => rfl
  | cons l r ih =>
    obtain ⟨hl, hr⟩ := List.forall_mem_cons.1 h
    rw [List.flatMap_cons, List.append_assoc, List.singleton_append,
      List.splitOn_append_cons_self_of_not_mem hl, ih hr]
    rfl

theorem ended_injective {L L' : List (List Char)} (hL : ∀ l ∈ L, '\n' ∉ l) (hL' : ∀ l ∈ L', '\n' ∉ l)
    (h : L.flatMap (· ++ ['\n']) = L'.flatMap (· ++ ['\n'])) : L = L' := by
  have hsplit := splitOn_ended hL
  rw [h, splitOn_ended hL'] at hsplit
  exact (List.append_cancel_right hsplit).symm

end SchemaGo.Text
