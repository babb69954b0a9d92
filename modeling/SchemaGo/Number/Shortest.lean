import SchemaGo.Number.Double

/-! The shortest decimal that reads back as a given double. The reals that round to the double form an
interval around it, ends included when the significand is even. On the grids of 1, 2, ... 17 digits
the value's two neighbours are tried; the first grid with a hit wins, of two hits the nearer one, of
two equally near ones the even one. -/

namespace SchemaGo.Number

/-- The decimal `digits * 10 ^ exponent`. -/
structure Decimal where
  digits : Nat
  exponent : Int
  deriving DecidableEq

/-- The number of decimal digits of `n`. -/
def digitCount (n : Nat) : Nat :=
  (Nat.toDigits 10 n).length

/-- The exponent `e` with `10 ^ e ≤ num / den < 10 ^ (e + 1)`, for positive `num` and `den`. -/
def floorLog10 (num den : Nat) : Int :=
  if den ≤ num then (digitCount (num / den) : Int) - 1
  else -(digitCount ((den - 1) / num) : Int)

namespace Double

/-- Quarters of the unit in the last place, the interval's ends and the value counted in them: below
a power of two the lower neighbour is only half a unit away. -/
def lowerQuarters (x : Double) : Nat :=
  if x.significand = Nat.pow 2 52 ∧ -1074 < x.exponent then 4 * x.significand - 1 else 4 * x.significand - 2

def upperQuarters (x : Double) : Nat :=
  4 * x.significand + 2

/-- The neighbour of `x` on the grid of multiples of `10 ^ p` that reads back as `x`. -/
def onGrid? (x : Double) (p : Int) : Option Nat :=
  let (two, half) := binaryRatio 1 (x.exponent - 2)
  let (ten, tenth) := decimalRatio 1 p
  let den := half * ten
  let count (quarters : Nat) := quarters * two * tenth
  let value := count (4 * x.significand)
  let reads (c : Nat) : Bool :=
    if x.significand % 2 = 0 then
      count x.lowerQuarters ≤ c * den && c * den ≤ count x.upperQuarters
    else count x.lowerQuarters < c * den && c * den < count x.upperQuarters
  let below := value / den
  match reads below, reads (below + 1) with
  | true, true => some (roundDiv value den)
  | true, false => some below
  | false, true => some (below + 1)
  | false, false => none

/-- Moves factors of ten from the digits to the exponent, at most `fuel` of them. -/
def dropZeros : Nat → Nat → Int → Decimal
  | 0, n, e => ⟨n, e⟩
  | fuel + 1, n, e => if n % 10 = 0 then dropZeros fuel (n / 10) (e + 1) else ⟨n, e⟩

/-- The shortest decimal that reads back as the magnitude of `x`, its last digit not zero. -/
def shortest (x : Double) : Decimal :=
  if x.isZero then ⟨0, 0⟩
  else
    let top := floorLog10 x.ratio.1 x.ratio.2
    let found := (List.range 17).findSome? fun n =>
      let p := top - (n : Nat)
      (x.onGrid? p).map (·, p)
    match found with
    | some (n, e) => dropZeros (digitCount n) n e
    | none => ⟨0, 0⟩

end Double

end SchemaGo.Number
