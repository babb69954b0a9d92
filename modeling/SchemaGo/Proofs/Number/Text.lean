import SchemaGo.Number.Basic
import SchemaGo.Proofs.Text.Lines

/-! The texts of numbers. An integer is written in decimal without a leading zero, and any other number with a
point, an exponent or both, either of them behind a minus sign or without one. Such a text stays on one
line. -/

namespace SchemaGo.Number

open Text (OneLine oneLine_append oneLine_cons)

/-- Decimal digits, of which there is one at least. -/
def Digits (l : List Char) : Prop :=
  l ≠ [] ∧ ∀ c ∈ l, c.isDigit

/-- The literal of a natural number in decimal. A leading zero would make it octal. -/
def IsInteger (l : List Char) : Prop :=
  Digits l ∧ (l.head? = some '0' → l = ['0'])

/-- The literal of a number with a point, an exponent or both. -/
inductive IsFloat : List Char → Prop
  | point {a b : List Char} (ha : Digits a) (hb : Digits b) : IsFloat (a ++ '.' :: b)
  | exponent {a e : List Char} {sign : Char} (ha : Digits a) (hsign : sign = '+' ∨ sign = '-')
      (he : Digits e) : IsFloat (a ++ 'e' :: sign :: e)
  | both {a b e : List Char} {sign : Char} (ha : Digits a) (hb : Digits b)
      (hsign : sign = '+' ∨ sign = '-') (he : Digits e) : IsFloat (a ++ '.' :: b ++ 'e' :: sign :: e)

/-- A literal behind a minus sign or without one. -/
def Signed (P : List Char → Prop) (l : List Char) : Prop :=
  P l ∨ ∃ u, l = '-' :: u ∧ P u

theorem Signed.imp {P Q : List Char → Prop} (h : ∀ l, P l → Q l) {l : List Char} (hl : Signed P l) :
    Signed Q l := by
  rcases hl with hl | ⟨u, hu, hP⟩
  · exact .inl (h l hl)
  · exact .inr ⟨u, hu, h u hP⟩

/-! ### Integers -/

theorem digits_toDigits (n : Nat) : Digits (Nat.toDigits 10 n) :=
  ⟨by simp, fun _ hc => Nat.isDigit_of_mem_toDigits (by decide) (by decide) hc⟩

theorem minus_not_mem_toDigits (n : Nat) : '-' ∉ Nat.toDigits 10 n :=
  fun hc => absurd ((digits_toDigits n).2 _ hc) (by decide)

/-- A positive number has no leading zero. -/
theorem head_toDigits {n : Nat} (h : 0 < n) : ∃ c cs, Nat.toDigits 10 n = c :: cs ∧ 0 < c.toNat - 48 := by
  induction n using Nat.strongRecOn with
  | ind n ih =>
    by_cases hn : n < 10
    · have hdigit : ∀ n < 10, 0 < n → 0 < n.digitChar.toNat - 48 := by decide
      exact ⟨n.digitChar, [], Nat.toDigits_of_lt_base hn, hdigit n hn h⟩
    · obtain ⟨c, cs, hdigits, hc⟩ := ih (n / 10) (by omega) (by omega)
      refine ⟨c, cs ++ [(n % 10).digitChar], ?_, hc⟩
      rw [Nat.toDigits_of_base_le (by decide) (by omega), hdigits]
      rfl

theorem isInteger_toDigits (n : Nat) : IsInteger (Nat.toDigits 10 n) := by
  refine ⟨digits_toDigits n, fun hhead => ?_⟩
  rcases Nat.eq_zero_or_pos n with rfl | hn
  · rfl
  · obtain ⟨c, cs, hdigits, hc⟩ := head_toDigits hn
    obtain rfl : c = '0' := by simpa [hdigits] using hhead
    exact absurd hc (by decide)

theorem text_ofNat (n : Nat) : (text (.integer (.ofNat n))).toList = Nat.toDigits 10 n := by
  change n.repr.toList = _
  simp

theorem text_negSucc (n : Nat) : (text (.integer (.negSucc n))).toList = '-' :: Nat.toDigits 10 (n + 1) := by
  change ("-" ++ (n + 1).repr).toList = _
  simp

theorem signed_integer (n : Int) : Signed IsInteger (text (.integer n)).toList := by
  cases n with
  | ofNat n =>
    rw [text_ofNat]
    exact .inl (isInteger_toDigits n)
  | negSucc n => exact .inr ⟨_, text_negSucc n, isInteger_toDigits (n + 1)⟩

/-! ### Other numbers -/

theorem Digits.append {a b : List Char} (ha : Digits a) (hb : ∀ c ∈ b, c.isDigit) : Digits (a ++ b) :=
  ⟨by simp [ha.1], List.forall_mem_append.2 ⟨ha.2, hb⟩⟩

theorem isDigit_of_mem_zeros {n : Nat} : ∀ c ∈ (zeros n).toList, c.isDigit := by
  intro c hc
  obtain ⟨-, rfl⟩ := List.mem_replicate.1 (by simpa [zeros] using hc)
  rfl

theorem isFloat_plainText {digits : List Char} (h : Digits digits) (point : Int) :
    IsFloat (plainText digits point).toList := by
  unfold plainText
  split
  · have hfraction : Digits ((zeros (-point).toNat).toList ++ digits) :=
      ⟨by simp [h.1], List.forall_mem_append.2 ⟨isDigit_of_mem_zeros, h.2⟩⟩
    simpa using IsFloat.point (a := ['0']) ⟨by simp, by simp⟩ hfraction
  · next hpoint =>
    split
    · next hlength =>
      have hwhole := h.append (isDigit_of_mem_zeros (n := point.toNat - digits.length))
      simpa using IsFloat.point (b := ['0']) hwhole ⟨by simp, by simp⟩
    · next hlength =>
      have hwhole : Digits (digits.take point.toNat) :=
        ⟨by simp [h.1]; omega, fun c hc => h.2 c (List.mem_of_mem_take hc)⟩
      have hfraction : Digits (digits.drop point.toNat) :=
        ⟨by simp; omega, fun c hc => h.2 c (List.mem_of_mem_drop hc)⟩
      simpa using IsFloat.point hwhole hfraction

theorem isFloat_exponentText {digits : List Char} (h : Digits digits) (exponent : Int) :
    IsFloat (exponentText digits exponent).toList := by
  have hwhole : Digits (digits.take 1) :=
    ⟨by simp [h.1], fun c hc => h.2 c (List.mem_of_mem_take hc)⟩
  have hexponent := digits_toDigits exponent.natAbs
  obtain ⟨sign, hsign, htext⟩ : ∃ sign, (sign = '+' ∨ sign = '-') ∧
      (if exponent < 0 then "e-" else "e+").toList = ['e', sign] := by
    split
    · exact ⟨'-', .inr rfl, rfl⟩
    · exact ⟨'+', .inl rfl, rfl⟩
  simp only [exponentText, String.toList_append, String.toList_ofList, htext,
    Nat.toString_eq_ofList_toDigits]
  split
  · simpa using IsFloat.exponent hwhole hsign hexponent
  · next hfraction =>
    have hdigits : Digits (digits.drop 1) :=
      ⟨by simpa using hfraction, fun c hc => h.2 c (List.mem_of_mem_drop hc)⟩
    simpa using IsFloat.both hwhole hdigits hsign hexponent

theorem isFloat_magnitudeText (x : Double) : IsFloat x.magnitudeText.toList := by
  unfold Double.magnitudeText
  split
  · exact .point (a := ['0']) (b := ['0']) ⟨by simp, by simp⟩ ⟨by simp, by simp⟩
  · dsimp only
    split
    · exact isFloat_plainText (digits_toDigits _) _
    · exact isFloat_exponentText (digits_toDigits _) _

theorem signed_double (x : Double) : Signed IsFloat (text (.double x)).toList := by
  have hmagnitude := isFloat_magnitudeText x
  simp only [text, String.toList_append]
  split
  · exact .inr ⟨_, rfl, hmagnitude⟩
  · exact .inl hmagnitude

/-! ### One line -/

theorem Digits.oneLine {l : List Char} (h : Digits l) : OneLine l := by
  intro c hc
  constructor <;> rintro rfl <;> exact absurd (h.2 _ hc) (by decide)

theorem IsFloat.oneLine {l : List Char} (h : IsFloat l) : OneLine l := by
  cases h with
  | point ha hb => exact oneLine_append.2 ⟨ha.oneLine, oneLine_cons.2 ⟨by decide, hb.oneLine⟩⟩
  | exponent ha hsign he =>
    refine oneLine_append.2 ⟨ha.oneLine, oneLine_cons.2 ⟨by decide, oneLine_cons.2 ⟨?_, he.oneLine⟩⟩⟩
    rcases hsign with rfl | rfl <;> decide
  | both ha hb hsign he =>
    refine oneLine_append.2 ⟨oneLine_append.2 ⟨ha.oneLine, oneLine_cons.2 ⟨by decide, hb.oneLine⟩⟩,
      oneLine_cons.2 ⟨by decide, oneLine_cons.2 ⟨?_, he.oneLine⟩⟩⟩
    rcases hsign with rfl | rfl <;> decide

theorem Signed.oneLine {P : List Char → Prop} (h : ∀ l, P l → OneLine l) {l : List Char} (hl : Signed P l) :
    OneLine l := by
  rcases hl with hl | ⟨u, rfl, hu⟩
  · exact h l hl
  · exact oneLine_cons.2 ⟨by decide, h u hu⟩

theorem oneLine_text (n : Number) : OneLine n.text.toList := by
  cases n with
  | integer n => exact (signed_integer n).oneLine fun _ h => h.1.oneLine
  | double x => exact (signed_double x).oneLine fun _ => IsFloat.oneLine

end SchemaGo.Number
