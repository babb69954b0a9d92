import Mathlib.Data.List.TakeWhile
import SchemaGo.Json.Parser
import SchemaGo.Proofs.Number.Text

/-! Numerals inside a text. A reader of numerals stops in front of a comma or a closing bracket, so it reads
what stands there as it does on its own. A number reads back if its text is a numeral that denotes it, as
the text of every integer of 64 bits is. -/

namespace SchemaGo.Json

open Number (Numeral absorb)
open Text (Reader)

/-! ### Ends of numerals -/

/-- A comma, a closing bracket or nothing at all stands in front. -/
def Ended (rest : List Char) : Prop :=
  ∀ c ∈ rest.head?, c = ',' ∨ c = ']' ∨ c = '\x7d'

/-- A reader that reads the same if something ended stands behind. -/
def StopsAtEnd {α : Type} (read : Reader α) : Prop :=
  ∀ {cs a left rest}, Ended rest → read cs = some (a, left) → read (cs ++ rest) = some (a, left ++ rest)

theorem ended_nil : Ended [] := by
  rintro c ⟨⟩

theorem Ended.not_isDigit {rest : List Char} (h : Ended rest) : ∀ c ∈ rest.head?, ¬ c.isDigit := by
  intro c hc
  rcases h c hc with rfl | rfl | rfl <;> decide

theorem Ended.digits_append {rest : List Char} (h : Ended rest) (cs : List Char) :
    digits (cs ++ rest) = ((digits cs).1, (digits cs).2 ++ rest) := by
  have hnone : rest.takeWhile Char.isDigit = [] ∧ rest.dropWhile Char.isDigit = rest := by
    cases rest with
    | nil => exact ⟨rfl, rfl⟩
    | cons c rest => simp [h.not_isDigit c rfl]
  have hparts : (cs ++ rest).takeWhile Char.isDigit = cs.takeWhile Char.isDigit ∧
      (cs ++ rest).dropWhile Char.isDigit = cs.dropWhile Char.isDigit ++ rest := by
    induction cs with
    | nil => exact hnone
    | cons c cs ih => cases hc : c.isDigit <;> simp [hc, ih]
  rw [digits, hparts.1, hparts.2]
  rfl

/-- Any other character in front stands in front of what is ended, too. -/
theorem Ended.cons_of_append {rest : List Char} (h : Ended rest) {c : Char} {cs tail : List Char}
    (hc : ¬ (c = ',' ∨ c = ']' ∨ c = '\x7d')) (heq : cs ++ rest = c :: tail) : ∃ cs', cs = c :: cs' := by
  cases cs with
  | nil =>
    rw [List.nil_append] at heq
    exact absurd (h c (by rw [heq]; rfl)) hc
  | cons d cs =>
    obtain ⟨rfl, -⟩ := List.cons.inj heq
    exact ⟨cs, rfl⟩

theorem someDigits_eq_some_iff {cs left : List Char} {ds : List Nat} :
    someDigits cs = some (ds, left) ↔ digits cs = (ds, left) ∧ ds ≠ [] := by
  unfold someDigits
  split
  · next hnone =>
    rw [hnone]
    simp +contextual [eq_comm]
  · next hsome hdigits =>
    rw [hdigits]
    constructor
    · rintro ⟨⟩
      exact ⟨rfl, hsome⟩
    · rintro ⟨⟨⟩, -⟩
      rfl

theorem stopsAtEnd_someDigits : StopsAtEnd someDigits := by
  intro cs ds left rest hrest h
  obtain ⟨hdigits, hsome⟩ := someDigits_eq_some_iff.1 h
  refine someDigits_eq_some_iff.2 ⟨?_, hsome⟩
  rw [hrest.digits_append, hdigits]

theorem stopsAtEnd_wholeDigits : StopsAtEnd wholeDigits := by
  intro cs ds left rest hrest h
  unfold wholeDigits at h ⊢
  split at h
  · cases h
  · next hone =>
    rw [stopsAtEnd_someDigits hrest h]
    split
    · next hzero =>
      cases hzero
      exact absurd h (hone _ _ _)
    · rfl

theorem stopsAtEnd_fractionDigits : StopsAtEnd fractionDigits := by
  intro cs ds left rest hrest h
  unfold fractionDigits at h
  split at h
  · exact stopsAtEnd_someDigits hrest h
  · next hpoint =>
    cases h
    unfold fractionDigits
    split
    · next heq =>
      obtain ⟨cs', rfl⟩ := hrest.cons_of_append (by decide) heq
      exact absurd rfl (hpoint cs')
    · rfl

theorem stopsAtEnd_signedExponent : StopsAtEnd signedExponent := by
  intro cs e left rest hrest h
  unfold signedExponent at h
  split at h
  · obtain ⟨⟨ds, _⟩, hdigits, ⟨⟩⟩ := Option.map_eq_some_iff.1 h
    exact congrArg (Option.map _) (stopsAtEnd_someDigits hrest hdigits)
  · obtain ⟨⟨ds, _⟩, hdigits, ⟨⟩⟩ := Option.map_eq_some_iff.1 h
    exact congrArg (Option.map _) (stopsAtEnd_someDigits hrest hdigits)
  · next hminus hplus =>
    obtain ⟨⟨ds, _⟩, hdigits, ⟨⟩⟩ := Option.map_eq_some_iff.1 h
    unfold signedExponent
    split
    · next heq =>
      obtain ⟨cs', rfl⟩ := hrest.cons_of_append (by decide) heq
      exact absurd rfl (hminus cs')
    · next heq =>
      obtain ⟨cs', rfl⟩ := hrest.cons_of_append (by decide) heq
      exact absurd rfl (hplus cs')
    · exact congrArg (Option.map _) (stopsAtEnd_someDigits hrest hdigits)

theorem stopsAtEnd_exponentPart : StopsAtEnd exponentPart := by
  intro cs e left rest hrest h
  unfold exponentPart at h
  split at h
  · obtain ⟨⟨e, _⟩, hexponent, ⟨⟩⟩ := Option.map_eq_some_iff.1 h
    exact congrArg (Option.map _) (stopsAtEnd_signedExponent hrest hexponent)
  · obtain ⟨⟨e, _⟩, hexponent, ⟨⟩⟩ := Option.map_eq_some_iff.1 h
    exact congrArg (Option.map _) (stopsAtEnd_signedExponent hrest hexponent)
  · next hlower hupper =>
    cases h
    unfold exponentPart
    split
    · next heq =>
      obtain ⟨cs', rfl⟩ := hrest.cons_of_append (by decide) heq
      exact absurd rfl (hlower cs')
    · next heq =>
      obtain ⟨cs', rfl⟩ := hrest.cons_of_append (by decide) heq
      exact absurd rfl (hupper cs')
    · rfl

theorem stopsAtEnd_unsigned (negative : Bool) : StopsAtEnd (unsigned negative) := by
  intro cs t left rest hrest h
  simp only [unsigned, Option.bind_eq_bind, Option.bind_eq_some_iff] at h ⊢
  obtain ⟨⟨whole, cs₁⟩, hwhole, ⟨fraction, cs₂⟩, hfraction, ⟨exponent, cs₃⟩, hexponent, hnumeral⟩ := h
  cases hnumeral
  exact ⟨_, stopsAtEnd_wholeDigits hrest hwhole, _, stopsAtEnd_fractionDigits hrest hfraction, _,
    stopsAtEnd_exponentPart hrest hexponent, rfl⟩

theorem stopsAtEnd_numeral : StopsAtEnd numeral := by
  intro cs t left rest hrest h
  unfold numeral at h
  split at h
  · exact stopsAtEnd_unsigned true hrest h
  · next hminus =>
    unfold numeral
    split
    · next heq =>
      obtain ⟨cs', rfl⟩ := hrest.cons_of_append (by decide) heq
      exact absurd rfl (hminus cs')
    · exact stopsAtEnd_unsigned false hrest h

/-- A numeral starts with its sign or a digit. -/
theorem numeral_head {cs left : List Char} {t : Numeral} (h : numeral cs = some (t, left)) :
    ∃ c tail, cs = c :: tail ∧ (c = '-' ∨ c.isDigit) := by
  unfold numeral at h
  split at h
  · exact ⟨'-', _, rfl, .inl rfl⟩
  · cases cs with
    | nil => cases h
    | cons c cs =>
      refine ⟨c, cs, rfl, .inr ?_⟩
      by_contra hc
      have hnone : someDigits (c :: cs) = none := by
        simp [someDigits, digits, hc]
      simp [unsigned, wholeDigits, hnone] at h

/-! ### Integers -/

/-- A number is its digits in front of nothing. -/
theorem digits_toDigits (n : Nat) :
    digits (Nat.toDigits 10 n) = ((Nat.toDigits 10 n).map (·.toNat - 48), []) := by
  have hdigits := (Number.digits_toDigits n).2
  rw [digits, List.takeWhile_eq_self_iff.2 hdigits, List.dropWhile_eq_nil_iff.2 hdigits]

theorem wholeDigits_toDigits (n : Nat) :
    wholeDigits (Nat.toDigits 10 n) = some ((Nat.toDigits 10 n).map (·.toNat - 48), []) := by
  have hsome := someDigits_eq_some_iff.2 ⟨digits_toDigits n, by simp⟩
  unfold wholeDigits
  rw [hsome]
  split
  · next hzero =>
    rcases Nat.eq_zero_or_pos n with rfl | hn
    · cases hzero
    · obtain ⟨c, cs, hdigits, hc⟩ := Number.head_toDigits hn
      rw [hdigits] at hzero
      simp only [List.map_cons, Option.some.injEq, Prod.mk.injEq, List.cons.injEq] at hzero
      omega
  · rfl

theorem unsigned_toDigits (negative : Bool) (n : Nat) :
    unsigned negative (Nat.toDigits 10 n) =
      some (⟨negative, (Nat.toDigits 10 n).map (·.toNat - 48), [], none⟩, []) := by
  rw [unsigned, wholeDigits_toDigits]
  rfl

theorem numeral_toDigits (n : Nat) :
    numeral (Nat.toDigits 10 n) =
      some (⟨false, (Nat.toDigits 10 n).map (·.toNat - 48), [], none⟩, []) := by
  unfold numeral
  split
  · next hminus =>
    exact absurd (hminus ▸ List.mem_cons_self) (Number.minus_not_mem_toDigits n)
  · exact unsigned_toDigits false n

end SchemaGo.Json

namespace SchemaGo.Number

open Json (numeral numeral_toDigits unsigned_toDigits)

theorem le_foldl_digits (n : Nat) (ds : List Nat) : n ≤ ds.foldl (fun n d => n * 10 + d) n := by
  induction ds generalizing n with
  | nil => exact Nat.le_refl n
  | cons d ds ih => exact Nat.le_trans (by omega) (ih (n * 10 + d))

/-- Digits of a number that fits are absorbed all. -/
theorem absorb_of_lt {n : Nat} {ds : List Nat}
    (h : ds.foldl (fun n d => n * 10 + d) n < Nat.pow 2 64) :
    absorb n ds = (ds.foldl (fun n d => n * 10 + d) n, []) := by
  induction ds generalizing n with
  | nil => rfl
  | cons d ds ih =>
    rw [absorb, if_pos (Nat.lt_of_le_of_lt (le_foldl_digits _ ds) h)]
    exact ih h

theorem absorb_toDigits {n : Nat} (h : n < Nat.pow 2 64) :
    absorb 0 ((Nat.toDigits 10 n).map (·.toNat - 48)) = (n, []) := by
  have hfold : ((Nat.toDigits 10 n).map (·.toNat - 48)).foldl (fun n d => n * 10 + d) 0 = n := by
    have hchars := @Nat.ofDigitChars_ten_toDigits n
    simp only [Nat.ofDigitChars_eq_foldl, Nat.mul_comm 10] at hchars
    rw [List.foldl_map]
    exact hchars
  rw [absorb_of_lt (by rw [hfold]; exact h), hfold]

/-- The text of the number is a numeral that denotes it. -/
def ReadsBack (x : Number) : Prop :=
  ∃ t, numeral x.text.toList = some (t, []) ∧ t.value = some x

theorem readsBack_integer {n : Int} (lower : -(Nat.pow 2 63 : Nat) ≤ n)
    (upper : n < (Nat.pow 2 64 : Nat)) : ReadsBack (.integer n) := by
  cases n with
  | ofNat n =>
    have hfits : n < Nat.pow 2 64 := Int.ofNat_lt.1 upper
    rw [ReadsBack, text_ofNat]
    refine ⟨_, numeral_toDigits n, ?_⟩
    rw [Numeral.value, absorb_toDigits hfits]
    rfl
  | negSucc n =>
    have hfits : n + 1 ≤ Nat.pow 2 63 := by omega
    rw [ReadsBack, text_negSucc]
    refine ⟨_, unsigned_toDigits true (n + 1), ?_⟩
    rw [Numeral.value, absorb_toDigits (Nat.lt_of_le_of_lt hfits (by decide))]
    simp [hfits, Int.negSucc_eq]

end SchemaGo.Number
