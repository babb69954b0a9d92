import SchemaGo.Number.Double
import SchemaGo.Toml.Item

/-! Scalars that are written without quotes: booleans, integers, floats, dates and times. Underscores
may stand between digits. An integer fits into 64 bits, signed or unsigned. -/

namespace SchemaGo.Toml

/-- The digits of a number without the underscores between them. -/
def ungroup (isDigit : Char → Bool) : List Char → Option (List Char)
  | [] => none
  | [c] => if isDigit c then some [c] else none
  | c :: '_' :: cs => if isDigit c then (ungroup isDigit cs).map (c :: ·) else none
  | c :: cs => if isDigit c then (ungroup isDigit cs).map (c :: ·) else none

def digitValue (c : Char) : Nat :=
  if c.isDigit then c.toNat - 48 else c.toLower.toNat - 87

def isDigitOf (base : Nat) (c : Char) : Bool :=
  (c.isDigit || ('a' ≤ c.toLower && c.toLower ≤ 'f')) && digitValue c < base

def numberOf (base : Nat) (ds : List Char) : Nat :=
  ds.foldl (fun n c => n * base + digitValue c) 0

/-- Digits of which the first is not zero, unless it is the only one. -/
def decimalDigits (cs : List Char) : Option (List Char) :=
  match ungroup Char.isDigit cs with
  | some ('0' :: _ :: _) => none
  | other => other

def unsign : List Char → Bool × List Char
  | '-' :: cs => (true, cs)
  | '+' :: cs => (false, cs)
  | cs => (false, cs)

def integer? (cs : List Char) : Option Int :=
  let based (base : Nat) (ds : List Char) : Option Int :=
    (ungroup (isDigitOf base) ds).map (numberOf base ·)
  match cs with
  | '0' :: 'x' :: ds => based 16 ds
  | '0' :: 'o' :: ds => based 8 ds
  | '0' :: 'b' :: ds => based 2 ds
  | _ =>
    let (negative, ds) := unsign cs
    (decimalDigits ds).map fun ds =>
      if negative then -(numberOf 10 ds : Int) else numberOf 10 ds

def fitsWord (n : Int) : Bool :=
  -(Nat.pow 2 63 : Int) ≤ n && n < Nat.pow 2 64

/-- Whether a decimal rounds to a finite number. -/
def isFinite (digits : List Char) (exponent : Int) : Bool :=
  let n := numberOf 10 digits
  if n = 0 ∨ digits.length + exponent < 300 then true
  else if 320 < exponent then false
  else
    let (num, den) := Number.decimalRatio n exponent
    (Number.Double.ofRatio num den).isSome

/-- Splits at the first character that a test accepts, which is left out. -/
def splitFirst (p : Char → Bool) (cs : List Char) : List Char × Option (List Char) :=
  match cs.dropWhile (!p ·) with
  | [] => (cs, none)
  | _ :: rest => (cs.takeWhile (!p ·), some rest)

def isFloat (cs : List Char) : Bool :=
  let body := (unsign cs).2
  if body = "inf".toList || body = "nan".toList then true
  else
    let (mantissa, exponent) := splitFirst (fun c => c = 'e' || c = 'E') body
    let (whole, fraction) := splitFirst (· = '.') mantissa
    let digits := do
      let whole ← decimalDigits whole
      let fraction ← match fraction with
        | some ds => ungroup Char.isDigit ds
        | none => some []
      let exponent ← match exponent with
        | some ds =>
          let (negative, ds) := unsign ds
          (ungroup Char.isDigit ds).map fun ds =>
            if negative then -(numberOf 10 ds : Int) else numberOf 10 ds
        | none => some 0
      return (whole ++ fraction, exponent - fraction.length)
    (fraction.isSome || exponent.isSome) && digits.any fun (ds, e) => isFinite ds e

/-! ### Dates and times -/

/-- A number of exactly two digits in a range, and what follows it. -/
def twoDigits (low high : Nat) : List Char → Option (Nat × List Char)
  | a :: b :: cs =>
    let n := numberOf 10 [a, b]
    if a.isDigit && b.isDigit && low ≤ n && n ≤ high then some (n, cs) else none
  | _ => none

def daysIn (year month : Nat) : Nat :=
  if month = 2 then
    if year % 4 = 0 ∧ (year % 100 ≠ 0 ∨ year % 400 = 0) then 29 else 28
  else if month = 4 ∨ month = 6 ∨ month = 9 ∨ month = 11 then 30
  else 31

/-- Takes a full date off. -/
def skipDate : List Char → Option (List Char)
  | a :: b :: c :: d :: '-' :: cs => do
    if !(a.isDigit && b.isDigit && c.isDigit && d.isDigit) then failure
    let (month, cs) ← twoDigits 1 12 cs
    match cs with
    | '-' :: cs => (twoDigits 1 (daysIn (numberOf 10 [a, b, c, d]) month) cs).map (·.2)
    | _ => none
  | _ => none

/-- Takes the fraction of a second off. -/
def skipFraction : List Char → Option (List Char)
  | '.' :: cs => if (cs.head?.any Char.isDigit) then some (cs.dropWhile Char.isDigit) else none
  | cs => some cs

/-- Takes a time of day off; the seconds may be left out. -/
def skipTime (cs : List Char) : Option (List Char) := do
  let (_, cs) ← twoDigits 0 23 cs
  match cs with
  | ':' :: cs =>
    let (_, cs) ← twoDigits 0 59 cs
    match cs with
    | ':' :: cs => skipFraction (← twoDigits 0 60 cs).2
    | _ => some cs
  | _ => none

def isOffset : List Char → Bool
  | [] => true
  | ['Z'] => true
  | ['z'] => true
  | sign :: cs =>
    (sign = '+' || sign = '-') &&
      match twoDigits 0 23 cs with
      | some (_, ':' :: cs) => (twoDigits 0 59 cs).any (·.2.isEmpty)
      | _ => false

def isDate (cs : List Char) : Bool :=
  match skipDate cs with
  | some [] => true
  | some (mark :: time) =>
    (mark = 'T' || mark = 't' || mark = ' ') && (skipTime time).any isOffset
  | none => skipTime cs = some []

/-- The value of an unquoted scalar. -/
def scalar? (cs : List Char) : Option Value :=
  if cs = "true".toList then some (.boolean true)
  else if cs = "false".toList then some (.boolean false)
  else
    match integer? cs with
    | some n => if fitsWord n then some (.integer n) else none
    | none => if isFloat cs then some .float else if isDate cs then some .date else none

end SchemaGo.Toml
