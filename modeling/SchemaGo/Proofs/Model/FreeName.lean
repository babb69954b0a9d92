import Mathlib.Data.List.Dedup
import SchemaGo.Proofs.Model.ContextName

/-! The free names of a base. They are tried in a fixed order, and the first one that is not taken is
chosen. So a choice depends on the taken names only as far as the names tried are among them: it stays
the same when more names are taken that are not chosen, and the base itself is chosen as soon as it is
free. No name is tried twice, so the search ends after one more try than there are taken names. -/

namespace SchemaGo.Model

/-- The names for `base` in the order in which they are tried. -/
def candidate (base : String) : Nat → String
  | 0 => base
  | k + 1 => base ++ toString (k + 2)

theorem numberedName_eq (taken : List String) (base : String) (fuel n : Nat) :
    ∃ k, numberedName taken base fuel n = base ++ toString (n + k) ∧
      ∀ j < k, base ++ toString (n + j) ∈ taken := by
  induction fuel generalizing n with
  | zero => exact ⟨0, rfl, by simp⟩
  | succ fuel ih =>
    unfold numberedName
    split
    · next hn =>
      obtain ⟨k, hk, hbelow⟩ := ih (n + 1)
      refine ⟨k + 1, by rw [hk, show n + 1 + k = n + (k + 1) by omega], fun j hj => ?_⟩
      cases j with
      | zero => exact hn
      | succ j =>
        rw [show n + (j + 1) = n + 1 + j by omega]
        exact hbelow j (by omega)
    · exact ⟨0, rfl, by simp⟩

/-- All candidates in front of the one that is chosen are taken. -/
theorem exists_candidate_freeName (taken : List String) (base : String) :
    ∃ k, freeName taken base = candidate base k ∧ ∀ j < k, candidate base j ∈ taken := by
  unfold freeName
  split
  · next hbase =>
    obtain ⟨k, hk, hbelow⟩ := numberedName_eq taken base taken.length 2
    refine ⟨k + 1, by rw [hk, candidate, Nat.add_comm], fun j hj => ?_⟩
    cases j with
    | zero => exact hbase
    | succ j =>
      have := hbelow j (by omega)
      rwa [Nat.add_comm] at this
  · exact ⟨0, rfl, by simp⟩

/-- The first candidate that is not taken is chosen. -/
theorem freeName_eq_iff {taken : List String} {base name : String} :
    freeName taken base = name ↔
      ∃ k, name = candidate base k ∧ name ∉ taken ∧ ∀ j < k, candidate base j ∈ taken := by
  obtain ⟨k, hk, hbelow⟩ := exists_candidate_freeName taken base
  have hfree := freeName_not_mem taken base
  constructor
  · rintro rfl
    exact ⟨k, hk, hfree, hbelow⟩
  · rintro ⟨i, rfl, hi, hibelow⟩
    rw [hk] at hfree ⊢
    rcases Nat.lt_trichotomy k i with hlt | rfl | hlt
    · exact absurd (hibelow k hlt) hfree
    · rfl
    · exact absurd (hbelow i hlt) hi

/-- A base is chosen exactly if it is free, and gets a number otherwise. -/
theorem freeName_eq_self_iff {taken : List String} {base : String} :
    freeName taken base = base ↔ base ∉ taken := by
  constructor
  · intro h
    have hfree := freeName_not_mem taken base
    rwa [h] at hfree
  · intro h
    exact freeName_eq_iff.2 ⟨0, rfl, h, by simp⟩

/-- The choice against some taken names is the choice against more of them if it is free there. -/
theorem freeName_of_subset {taken taken' : List String} {base : String} (h : taken ⊆ taken')
    (free : freeName taken base ∉ taken') : freeName taken' base = freeName taken base := by
  obtain ⟨k, hk, hbelow⟩ := exists_candidate_freeName taken base
  exact freeName_eq_iff.2 ⟨k, hk, free, fun j hj => h (hbelow j hj)⟩

theorem freeName_congr {taken taken' : List String} (h : ∀ a, a ∈ taken ↔ a ∈ taken') (base : String) :
    freeName taken base = freeName taken' base :=
  freeName_of_subset (fun a ha => (h a).2 ha) fun hmem => freeName_not_mem taken' base ((h _).1 hmem)

/-- The name is the base if that is free, and else the base with the least number from 2 on that makes
it free. -/
def LeastFree (taken : List String) (base name : String) : Prop :=
  (base ∉ taken ∧ name = base) ∨
    (base ∈ taken ∧ ∃ n ≥ 2, name = base ++ toString n ∧ name ∉ taken ∧
      ∀ j ≥ 2, j < n → base ++ toString j ∈ taken)

theorem freeName_eq_iff_leastFree {taken : List String} {base name : String} :
    freeName taken base = name ↔ LeastFree taken base name := by
  rw [freeName_eq_iff]
  constructor
  · rintro ⟨_ | k, rfl, free, below⟩
    · exact .inl ⟨free, rfl⟩
    · refine .inr ⟨below 0 (by omega), k + 2, by omega, rfl, free, fun j hj hlt => ?_⟩
      obtain ⟨i, rfl⟩ := Nat.exists_eq_add_of_le' hj
      exact below (i + 1) (by omega)
  · rintro (⟨free, rfl⟩ | ⟨hbase, n, hn, rfl, free, below⟩)
    · exact ⟨0, rfl, free, by simp⟩
    · obtain ⟨k, rfl⟩ := Nat.exists_eq_add_of_le' hn
      refine ⟨k + 1, rfl, free, fun j hj => ?_⟩
      cases j with
      | zero => exact hbase
      | succ i => exact below (i + 2) (by omega) (by omega)

/-! ### The search -/

/-- The search for a free name of `base`, from the name that is tried and the number of the next one:
the tries that it takes, and the name that it ends with. -/
inductive Search (taken : List String) (base : String) : String → Nat → Nat → String → Prop
  | found {tried : String} {n : Nat} (free : tried ∉ taken) : Search taken base tried n 1 tried
  | next {tried name : String} {n tries : Nat} (occupied : tried ∈ taken)
      (rest : Search taken base (base ++ toString n) (n + 1) tries name) :
      Search taken base tried n (tries + 1) name

theorem candidate_injective (base : String) : Function.Injective (candidate base) := by
  have hnumber : ∀ k, candidate base 0 ≠ candidate base (k + 1) := by
    intro k h
    have hlength := congrArg String.length h
    have hdigits : 0 < (Nat.toDigits 10 (k + 2)).length := Nat.length_toDigits_pos
    simp only [candidate, String.length_append, Nat.toString_eq_repr, Nat.repr,
      String.length_ofList] at hlength
    omega
  intro i j h
  cases i with
  | zero =>
    cases j with
    | zero => rfl
    | succ j => exact absurd h (hnumber j)
  | succ i =>
    cases j with
    | zero => exact absurd h.symm (hnumber i)
    | succ j =>
      have hsame : base ++ toString (2 + i) = base ++ toString (2 + j) := by
        rw [Nat.add_comm 2 i, Nat.add_comm 2 j]
        exact h
      rw [numbered_injective base 2 hsame]

theorem Search.of_candidates {taken : List String} {base : String} (i k : Nat)
    (free : candidate base (i + k) ∉ taken) (below : ∀ j < k, candidate base (i + j) ∈ taken) :
    Search taken base (candidate base i) (i + 2) (k + 1) (candidate base (i + k)) := by
  induction k generalizing i with
  | zero => exact .found free
  | succ k ih =>
    refine .next (below 0 (by omega)) ?_
    have hrest := ih (i + 1) (by rwa [Nat.add_right_comm]) fun j hj => by
      rw [Nat.add_right_comm]
      exact below (j + 1) (by omega)
    rwa [show i + 1 + k = i + (k + 1) by omega, Nat.add_right_comm i 1 2] at hrest

/-- The search for a free name ends with the one that is chosen, after at most one more try than there
are taken names. -/
theorem exists_search (taken : List String) (base : String) :
    ∃ tries ≤ taken.dedup.length + 1, Search taken base base 2 tries (freeName taken base) := by
  obtain ⟨k, hk, below⟩ := exists_candidate_freeName taken base
  have hfree := freeName_not_mem taken base
  have hsub : (List.range k).map (candidate base) ⊆ taken.dedup := by
    intro name hname
    obtain ⟨j, hj, rfl⟩ := List.mem_map.1 hname
    exact List.mem_dedup.2 (below j (List.mem_range.1 hj))
  have hnodup := (List.nodup_range (n := k)).map (candidate_injective base)
  have hle := hnodup.length_le_of_subset hsub
  rw [List.length_map, List.length_range] at hle
  refine ⟨k + 1, by omega, ?_⟩
  rw [hk, ← Nat.zero_add k] at hfree
  have hsearch := Search.of_candidates 0 k hfree fun j hj => by
    rw [Nat.zero_add]
    exact below j hj
  simp only [Nat.zero_add, ← hk] at hsearch
  exact hsearch

end SchemaGo.Model
