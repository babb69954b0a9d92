import SchemaGo.Text.Letter
import SchemaGo.Proofs.Text.Lines

/-! Letters and numbers, and what the case mappings make of them. The tables start with the digits, so no
such character stands in front of those: none ends a line, and none is a blank, a star, a dot or a slash.
None is one of the marks between the capitals and the small letters of ASCII either. The upper case of a
letter or number has one again, though a combining mark may stand beside it. -/

namespace SchemaGo.Text

/-! ### Case mappings -/

section

variable {P : Char → Prop} {runs : List CaseRun} {expansions : List (Nat × List Nat)} {c : Char}

/-- A character maps to its image in a run, to its expansion, or to itself if it has neither. -/
theorem mapCase_cases (runs : List CaseRun) (expansions : List (Nat × List Nat)) (c : Char) :
    (∃ r ∈ runs, r.source.contains c.toNat = true ∧
        mapCase runs expansions c = [Char.ofNat (r.image + (c.toNat - r.source.first))]) ∨
      (∃ ns, (c.toNat, ns) ∈ expansions ∧ mapCase runs expansions c = ns.map Char.ofNat) ∨
      runImage? runs c.toNat = none ∧ mapCase runs expansions c = [c] := by
  unfold mapCase
  split
  · next n hn =>
    obtain ⟨r, hr, rfl⟩ := Option.map_eq_some_iff.1 hn
    have hcontains : r.source.contains c.toNat = true := by
      simpa using List.find?_some hr
    exact .inl ⟨r, (List.takeWhile_sublist _).subset (List.mem_of_find?_eq_some hr), hcontains, rfl⟩
  · next hnone =>
    split
    · next ns hns =>
      obtain ⟨before, behind, heq, -⟩ := List.lookup_eq_some_iff.1 hns
      exact .inr (.inl ⟨ns, (List.takeWhile_sublist _).subset (by rw [heq]; simp), rfl⟩)
    · exact .inr (.inr ⟨hnone, rfl⟩)

theorem CodeRun.contains_iff {r : CodeRun} {n : Nat} :
    r.contains n = true ↔ r.first ≤ n ∧ n ≤ r.last ∧ (n - r.first) % r.step = 0 := by
  simp [contains, and_assoc]

/-- What holds of the images in the runs, of the expansions and of a character that has neither holds of
every character that one maps to. -/
theorem forall_mem_mapCase
    (hruns : ∀ r ∈ runs, ∀ k ≤ r.source.last - r.source.first, P (Char.ofNat (r.image + k)))
    (hexpansions : ∀ e ∈ expansions, ∀ n ∈ e.2, P (Char.ofNat n))
    (hc : runImage? runs c.toNat = none → P c) : ∀ d ∈ mapCase runs expansions c, P d := by
  obtain ⟨r, hr, hcontains, heq⟩ | ⟨ns, hns, heq⟩ | ⟨hnone, heq⟩ := mapCase_cases runs expansions c
  · obtain ⟨-, hlast, -⟩ := CodeRun.contains_iff.1 hcontains
    simpa [heq] using hruns r hr _ (by omega)
  · simpa [heq] using hexpansions _ hns
  · simpa [heq] using hc hnone

/-- Some character that one maps to has a property that the images in the runs have, as well as one of each
expansion and the characters that have neither. -/
theorem exists_mem_mapCase
    (hruns : ∀ r ∈ runs, ∀ k ≤ r.source.last - r.source.first, k % r.source.step = 0 →
      P (Char.ofNat (r.image + k)))
    (hexpansions : ∀ e ∈ expansions, ∃ n ∈ e.2, P (Char.ofNat n)) (hc : P c) :
    ∃ d ∈ mapCase runs expansions c, P d := by
  obtain ⟨r, hr, hcontains, heq⟩ | ⟨ns, hns, heq⟩ | ⟨-, heq⟩ := mapCase_cases runs expansions c
  · obtain ⟨-, hlast, hstep⟩ := CodeRun.contains_iff.1 hcontains
    simpa [heq] using hruns r hr _ (by omega) hstep
  · simpa [heq] using hexpansions _ hns
  · simpa [heq] using hc

theorem mapCase_ne_nil (h : ∀ e ∈ expansions, e.2 ≠ []) (c : Char) : mapCase runs expansions c ≠ [] := by
  obtain ⟨r, -, -, heq⟩ | ⟨ns, hns, heq⟩ | ⟨-, heq⟩ := mapCase_cases runs expansions c
  · simp [heq]
  · simpa [heq] using h _ hns
  · simp [heq]

end

/-! ### Digits and marks -/

/-- No character stands in front of the digits. -/
def FromDigits (l : List Char) : Prop :=
  ∀ c ∈ l, 48 ≤ c.toNat

theorem FromDigits.not_mem {l : List Char} (h : FromDigits l) {c : Char} (hc : c.toNat < 48) : c ∉ l :=
  fun hmem => absurd (h c hmem) (by omega)

theorem FromDigits.oneLine {l : List Char} (h : FromDigits l) : OneLine l := by
  intro c hc
  constructor
  · rintro rfl
    exact h.not_mem (by decide) hc
  · rintro rfl
    exact h.not_mem (by decide) hc

theorem forall_ascii {P : Char → Prop} (h : ∀ n < 128, P (Char.ofNat n)) {c : Char} (hc : c.toNat < 128) :
    P c := by
  have hP := h c.toNat hc
  rwa [Char.ofNat_toNat] at hP

theorem toNat_ofNat {n : Nat} (h : n.isValidChar) : (Char.ofNat n).toNat = n := by
  rw [Char.ofNat, dif_pos h]
  rfl

/-! ### Tables -/

/-- The images of a run are characters and do not stand in front of the digits. -/
def CaseRun.FromDigits (r : CaseRun) : Prop :=
  48 ≤ r.image ∧ (r.image + (r.source.last - r.source.first) < 0xD800 ∨
    0xDFFF < r.image ∧ r.image + (r.source.last - r.source.first) < 0x110000)

instance (r : CaseRun) : Decidable r.FromDigits :=
  inferInstanceAs (Decidable (_ ∧ _))

/-- One run, the first that ends at the upper bound or behind it, has all code points between the bounds. -/
def spanned (runs : List CodeRun) (first last : Nat) : Bool :=
  (runs.find? (last.ble ·.last)).any fun r => r.first.ble first && r.step.beq 1

/-- What the tables of a case mapping obey: they map to characters, none of which stands in front of the
digits or is one of the marks between the capitals and the small letters of ASCII, and no expansion is
empty. -/
structure CaseTables (runs : List CaseRun) (expansions : List (Nat × List Nat)) : Prop where
  images : ∀ r ∈ runs, r.FromDigits
  expanded : ∀ e ∈ expansions, ∀ n ∈ e.2, 48 ≤ n ∧ n < 0xD800
  unmarkedImages : ∀ r ∈ runs, r.image + (r.source.last - r.source.first) < 91 ∨ 96 < r.image
  unmarkedExpanded : ∀ e ∈ expansions, ∀ n ∈ e.2, n < 91 ∨ 96 < n
  expansions_ne_nil : ∀ e ∈ expansions, e.2 ≠ []

/-- What those of the upper case obey as well: they map the small letters of ASCII, map nothing to one, and
map to letters and numbers, beside which there may be other characters in an expansion. -/
structure UpperTables (runs : List CaseRun) (expansions : List (Nat × List Nat)) : Prop
    extends CaseTables runs expansions where
  small : ∀ k < 26, runImage? runs (97 + k) ≠ none
  capitalImages : ∀ r ∈ runs, r.image + (r.source.last - r.source.first) < 97 ∨ 122 < r.image
  capitalExpanded : ∀ e ∈ expansions, ∀ n ∈ e.2, n < 97 ∨ 122 < n
  wordImages : ∀ r ∈ runs,
    spanned Table.alphanumeric r.image (r.image + (r.source.last - r.source.first)) = true ∨
      ∀ k ≤ r.source.last - r.source.first, k % r.source.step = 0 →
        spanned Table.alphanumeric (r.image + k) (r.image + k) = true
  wordExpanded : ∀ e ∈ expansions, ∃ n ∈ e.2, spanned Table.alphanumeric n n = true

theorem upperTables : UpperTables Table.upperRuns Table.upperExpansions where
  images := by decide +kernel
  expanded := by decide +kernel
  unmarkedImages := by decide +kernel
  unmarkedExpanded := by decide +kernel
  expansions_ne_nil := by decide +kernel
  small := by decide +kernel
  capitalImages := by decide +kernel
  capitalExpanded := by decide +kernel
  wordImages := by decide +kernel
  wordExpanded := by decide +kernel

theorem lowerTables : CaseTables Table.lowerRuns Table.lowerExpansions where
  images := by decide +kernel
  expanded := by decide +kernel
  unmarkedImages := by decide +kernel
  unmarkedExpanded := by decide +kernel
  expansions_ne_nil := by decide +kernel

theorem upper_ne_nil (c : Char) : upper c ≠ [] :=
  mapCase_ne_nil upperTables.expansions_ne_nil c

theorem lower_ne_nil (c : Char) : lower c ≠ [] :=
  mapCase_ne_nil lowerTables.expansions_ne_nil c

section

variable {runs : List CaseRun} {expansions : List (Nat × List Nat)} {c : Char}

/-- Characters outside an interval that no image is in map to characters outside it, and so do those that
a run maps. -/
theorem CaseTables.outside (h : CaseTables runs expansions) {first last : Nat}
    (himages : ∀ r ∈ runs, r.image + (r.source.last - r.source.first) < first ∨ last < r.image)
    (hexpanded : ∀ e ∈ expansions, ∀ n ∈ e.2, n < first ∨ last < n)
    (hc : runImage? runs c.toNat = none → c.toNat < first ∨ last < c.toNat) :
    ∀ d ∈ mapCase runs expansions c, d.toNat < first ∨ last < d.toNat := by
  refine forall_mem_mapCase (P := fun d => d.toNat < first ∨ last < d.toNat) (fun r hr k hk => ?_)
    (fun e he n hn => ?_) hc
  · obtain ⟨-, hvalid⟩ := h.images r hr
    have hchar : (r.image + k).isValidChar := by
      rcases hvalid with h | h
      · exact .inl (by omega)
      · exact .inr (by omega)
    have := himages r hr
    rw [toNat_ofNat hchar]
    omega
  · rw [toNat_ofNat (.inl (h.expanded e he n hn).2)]
    exact hexpanded e he n hn

theorem CaseTables.fromDigits (h : CaseTables runs expansions) (hc : 48 ≤ c.toNat) :
    FromDigits (mapCase runs expansions c) := by
  intro d hd
  have houtside : d.toNat < 0 ∨ 47 < d.toNat :=
    h.outside (fun r hr => .inr (h.images r hr).1) (fun e he n hn => .inr (h.expanded e he n hn).1)
      (fun _ => .inr hc) d hd
  omega

end

/-- What the table of letters and numbers obeys: its runs are ascending runs of characters, none of which
stands in front of the digits or is one of those marks. -/
structure WordTable (runs : List CodeRun) : Prop where
  ascending : runs.IsChain (·.first ≤ ·.first)
  valid : ∀ r ∈ runs, r.last < 0xD800 ∨ 0xDFFF < r.first ∧ r.last < 0x110000
  fromDigits : ∀ r ∈ runs, 48 ≤ r.first
  unmarked : ∀ r ∈ runs, r.last < 91 ∨ 96 < r.first

theorem alphanumericTable : WordTable Table.alphanumeric where
  ascending := by decide +kernel
  valid := by decide +kernel
  fromDigits := by decide +kernel
  unmarked := by decide +kernel

/-! ### Letters, numbers and their cases -/

/-- Where no run reaches there is no letter or number. -/
theorem isWord_outside {first last : Nat} (hruns : ∀ r ∈ Table.alphanumeric, r.last < first ∨ last < r.first)
    {c : Char} (h : isWord c = true) : c.toNat < first ∨ last < c.toNat := by
  obtain ⟨r, hr, hc⟩ := List.any_eq_true.1 h
  obtain ⟨hfirst, hlast, -⟩ := CodeRun.contains_iff.1 hc
  have := hruns r ((List.takeWhile_sublist _).subset hr)
  omega

theorem le_of_isWord {c : Char} (h : isWord c = true) : 48 ≤ c.toNat := by
  have houtside : c.toNat < 0 ∨ 47 < c.toNat :=
    isWord_outside (fun r hr => .inr (alphanumericTable.fromDigits r hr)) h
  omega

theorem fromDigits_upper {c : Char} (h : isWord c = true) : FromDigits (upper c) :=
  upperTables.fromDigits (le_of_isWord h)

theorem fromDigits_lower {c : Char} (h : isWord c = true) : FromDigits (lower c) :=
  lowerTables.fromDigits (le_of_isWord h)

/-- No character is one of the marks between the capitals and the small letters of ASCII: brackets, the
backslash, the circumflex, the underscore and the backquote. -/
def Unmarked (l : List Char) : Prop :=
  ∀ c ∈ l, c.toNat < 91 ∨ 96 < c.toNat

theorem Unmarked.not_mem {l : List Char} (h : Unmarked l) {c : Char} (hc : 91 ≤ c.toNat ∧ c.toNat ≤ 96) :
    c ∉ l :=
  fun hmem => absurd (h c hmem) (by omega)

theorem outside_of_isWord {c : Char} (h : isWord c = true) : c.toNat < 91 ∨ 96 < c.toNat :=
  isWord_outside alphanumericTable.unmarked h

theorem unmarked_upper {c : Char} (h : c.toNat < 91 ∨ 96 < c.toNat) : Unmarked (upper c) :=
  upperTables.outside upperTables.unmarkedImages upperTables.unmarkedExpanded fun _ => h

theorem unmarked_lower {c : Char} (h : c.toNat < 91 ∨ 96 < c.toNat) : Unmarked (lower c) :=
  lowerTables.outside lowerTables.unmarkedImages lowerTables.unmarkedExpanded fun _ => h

/-- No upper case has a small letter of ASCII, since each of these has another upper case. -/
theorem not_isLower_of_mem_upper {c d : Char} (h : d ∈ upper c) : d.isLower = false := by
  have houtside : d.toNat < 97 ∨ 122 < d.toNat := by
    refine upperTables.outside upperTables.capitalImages upperTables.capitalExpanded (fun hnone => ?_) d h
    by_contra hinside
    have hsmall := upperTables.small (c.toNat - 97) (by omega)
    rw [Nat.add_sub_cancel' (by omega)] at hsmall
    exact hsmall hnone
  by_contra hnot
  have hlower : d.isLower = true := by simpa using hnot
  obtain ⟨hfirst, hlast⟩ := Bool.and_eq_true_iff.1 hlower
  have hle : 97 ≤ d.toNat := of_decide_eq_true hfirst
  have hlt : d.toNat ≤ 122 := of_decide_eq_true hlast
  omega

/-! ### Letters and numbers of upper case -/

/-- In ascending runs a search misses no code point. -/
theorem inRuns_of_mem {runs : List CodeRun} (ascending : runs.Pairwise (·.first ≤ ·.first)) {r : CodeRun}
    (hr : r ∈ runs) {c : Char} (hc : r.contains c.toNat = true) : inRuns runs c = true := by
  induction runs with
  | nil => cases hr
  | cons s runs ih =>
    obtain ⟨hs, hruns⟩ := List.pairwise_cons.1 ascending
    obtain ⟨hfirst, -, -⟩ := CodeRun.contains_iff.1 hc
    have hle : s.first ≤ c.toNat := by
      rcases List.mem_cons.1 hr with rfl | hmem
      · exact hfirst
      · exact Nat.le_trans (hs r hmem) hfirst
    rw [inRuns, List.takeWhile_cons_of_pos (by simpa using hle), List.any_cons, Bool.or_eq_true]
    rcases List.mem_cons.1 hr with rfl | hmem
    · exact .inl hc
    · exact .inr (ih hruns hmem)

theorem isWord_ofNat {first last n : Nat} (h : spanned Table.alphanumeric first last = true)
    (hn : first ≤ n ∧ n ≤ last) : isWord (Char.ofNat n) = true := by
  obtain ⟨r, hfind, hspan⟩ := (Option.any_eq_true _ _).1 h
  have hr : r ∈ Table.alphanumeric := List.mem_of_find?_eq_some hfind
  have hlast : last ≤ r.last := by simpa using List.find?_some hfind
  simp only [Bool.and_eq_true, Nat.ble_eq, Nat.beq_eq] at hspan
  obtain ⟨hfirst, hstep⟩ := hspan
  have hchar : n.isValidChar := by
    rcases alphanumericTable.valid r hr with hlt | hgt
    · exact .inl (by omega)
    · exact .inr (by omega)
  refine inRuns_of_mem (List.isChain_iff_pairwise.1 alphanumericTable.ascending) hr (CodeRun.contains_iff.2 ?_)
  rw [toNat_ofNat hchar, hstep]
  exact ⟨by omega, by omega, Nat.mod_one _⟩

theorem exists_word_upper {c : Char} (h : isWord c = true) : ∃ d ∈ upper c, isWord d = true := by
  refine exists_mem_mapCase (P := fun c => isWord c = true) (fun r hr k hk hstep => ?_) (fun e he => ?_) h
  · rcases upperTables.wordImages r hr with hspan | hspan
    · exact isWord_ofNat hspan ⟨by omega, by omega⟩
    · exact isWord_ofNat (hspan k hk hstep) ⟨Nat.le_refl _, Nat.le_refl _⟩
  · obtain ⟨n, hn, hspan⟩ := upperTables.wordExpanded e he
    exact ⟨n, hn, isWord_ofNat hspan ⟨Nat.le_refl _, Nat.le_refl _⟩⟩

end SchemaGo.Text
