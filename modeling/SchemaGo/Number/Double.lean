/-! Finite binary floating-point numbers with a significand of 53 bits, as exact data. Every operation
takes the exact quotient and rounds it once, to the nearest number and a tie to the even significand.
A quotient too large for a finite number has no result. -/

namespace SchemaGo.Number

/-- The number `± significand * 2 ^ exponent`. Results of this module have a significand below `2 ^ 53`
and the least exponent from `-1074` on that allows it, so equal numbers of one sign are equal data. -/
structure Double where
  negative : Bool
  significand : Nat
  exponent : Int
  deriving DecidableEq

/-- The integer nearest to `num / den`; a half goes to the even neighbour. -/
def roundDiv (num den : Nat) : Nat :=
  let q := num / den
  let r := num % den
  if 2 * r < den then q
  else if den < 2 * r then q + 1
  else q + q % 2

/-- `n * 2 ^ e` as a quotient. -/
def binaryRatio (n : Nat) (e : Int) : Nat × Nat :=
  (n * Nat.pow 2 e.toNat, Nat.pow 2 (-e).toNat)

/-- `n * 10 ^ e` as a quotient. -/
def decimalRatio (n : Nat) (e : Int) : Nat × Nat :=
  (n * Nat.pow 10 e.toNat, Nat.pow 10 (-e).toNat)

namespace Double

def zero : Double := ⟨false, 0, -1074⟩

def isZero (x : Double) : Bool :=
  x.significand == 0

def negate (x : Double) : Double :=
  { x with negative := !x.negative }

/-- The exponent `e` with `2 ^ e ≤ num / den < 2 ^ (e + 1)`, for positive `num` and `den`. -/
def floorLog2 (num den : Nat) : Int :=
  let e := (Nat.log2 num : Int) - Nat.log2 den
  let (n, d) := binaryRatio den e
  if n ≤ num * d then e else e - 1

/-- The nonnegative number nearest to `num / den`. -/
def ofRatio (num den : Nat) : Option Double :=
  if num = 0 then some zero
  else
    let e := max (floorLog2 num den - 52) (-1074)
    let (n, d) := binaryRatio den e
    let s := roundDiv (num * d) n
    let x : Double := if s = Nat.pow 2 53 then ⟨false, Nat.pow 2 52, e + 1⟩ else ⟨false, s, e⟩
    if 971 < x.exponent then none else some x

def ofNat (n : Nat) : Option Double :=
  ofRatio n 1

/-- The magnitude as a quotient. -/
def ratio (x : Double) : Nat × Nat :=
  binaryRatio x.significand x.exponent

/-- The product of the magnitudes. -/
def mul (x y : Double) : Option Double :=
  ofRatio (x.ratio.1 * y.ratio.1) (x.ratio.2 * y.ratio.2)

/-- The quotient of the magnitudes. -/
def div (x y : Double) : Option Double :=
  ofRatio (x.ratio.1 * y.ratio.2) (x.ratio.2 * y.ratio.1)

/-- The number nearest to `10 ^ n`. -/
def powerOfTen (n : Nat) : Option Double :=
  ofNat (Nat.pow 10 n)

/-- `n` times or over a power of ten, `n` and the power rounded first. One division reaches down to
`10 ^ -308` and two reach down to `10 ^ -616`; what is smaller is zero for `n` below `2 ^ 64`. -/
def scale (n : Nat) (exponent : Int) : Option Double := do
  let x ← ofNat n
  if 0 ≤ exponent then
    if x.isZero then some zero else x.mul (← powerOfTen exponent.toNat)
  else
    let places := (-exponent).toNat
    if places ≤ 308 then x.div (← powerOfTen places)
    else if places ≤ 616 then
      let y ← x.div (← powerOfTen 308)
      y.div (← powerOfTen (places - 308))
    else some zero

end Double

end SchemaGo.Number
