import SchemaGo.Number.Basic

/-! Numerals and the numbers they denote. A numeral without fraction and exponent denotes an integer
if that fits into 64 bits, signed or unsigned. Every other numeral denotes a double: its leading
digits, as many as fit into 64 bits, are rounded and then scaled by a rounded power of ten. Minus zero
is a double. -/

namespace SchemaGo.Number

/-- The parts of a written number: sign, digits before and after the point, exponent. -/
structure Numeral where
  negative : Bool
  whole : List Nat
  fraction : List Nat
  exponent : Option Int
  deriving DecidableEq

/-- Appends digits to `n` as long as the result is below `2 ^ 64`; the rest is returned. -/
def absorb (n : Nat) : List Nat → Nat × List Nat
  | [] => (n, [])
  | d :: ds => if n * 10 + d < Nat.pow 2 64 then absorb (n * 10 + d) ds else (n, d :: ds)

/-- A double with the sign of the numeral, or nothing if it is too large. -/
def Numeral.signed (t : Numeral) (x : Option Double) : Option Number :=
  x.map fun x => .double (if t.negative then x.negate else x)

def Numeral.value (t : Numeral) : Option Number :=
  let (n, excess) := absorb 0 t.whole
  if t.fraction.isEmpty && t.exponent.isNone then
    if !excess.isEmpty then t.signed (Double.scale n excess.length)
    else if !t.negative then some (.integer n)
    else if 0 < n ∧ n ≤ Nat.pow 2 63 then some (.integer (-n))
    else t.signed (Double.ofNat n)
  else
    let (m, rest) := absorb n t.fraction
    let places := t.fraction.length - rest.length
    t.signed (Double.scale m (excess.length - places + t.exponent.getD 0))

end SchemaGo.Number
