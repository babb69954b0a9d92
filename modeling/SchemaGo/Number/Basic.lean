import SchemaGo.Number.Shortest

/-! Numbers as documents hold them: integers, and doubles for everything else. An integer is written
in decimal. A double is written with its shortest digits and at least one fraction digit, in plain
notation from `0.00001` up to below `10 ^ 16` and with a signed exponent elsewhere. -/

namespace SchemaGo

inductive Number where
  | integer (n : Int)
  | double (x : Number.Double)
  deriving DecidableEq

namespace Number

def zeros (n : Nat) : String :=
  String.ofList (List.replicate n '0')

/-- Plain notation of `digits * 10 ^ exponent` with a point after the first `point` digits. -/
def plainText (digits : List Char) (point : Int) : String :=
  if point ≤ 0 then "0." ++ zeros (-point).toNat ++ String.ofList digits
  else if digits.length ≤ point.toNat then
    String.ofList digits ++ zeros (point.toNat - digits.length) ++ ".0"
  else String.ofList (digits.take point.toNat) ++ "." ++ String.ofList (digits.drop point.toNat)

/-- Exponent notation with one digit before the point and no padding of the exponent. -/
def exponentText (digits : List Char) (exponent : Int) : String :=
  let fraction := digits.drop 1
  String.ofList (digits.take 1) ++ (if fraction.isEmpty then "" else "." ++ String.ofList fraction)
    ++ (if exponent < 0 then "e-" else "e+") ++ toString exponent.natAbs

def Double.magnitudeText (x : Double) : String :=
  if x.isZero then "0.0"
  else
    let d := x.shortest
    let digits := Nat.toDigits 10 d.digits
    let exponent := digits.length + d.exponent - 1
    if -5 ≤ exponent ∧ exponent < 16 then plainText digits (exponent + 1)
    else exponentText digits exponent

def text : Number → String
  | .integer n => toString n
  | .double x => (if x.negative then "-" else "") ++ x.magnitudeText

end Number

end SchemaGo
