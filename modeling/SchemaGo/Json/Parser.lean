import SchemaGo.Json.Raw
import SchemaGo.Number.Numeral
import SchemaGo.Text.Basic

/-! Reading JSON text. The grammar is the strict one: no comments, no trailing commas, no leading
zeros or plus signs, no raw control characters in strings. -/

namespace SchemaGo.Json

open Number (Numeral)
open Text (Reader hexNumber?)

def isBlank (c : Char) : Bool :=
  c = ' ' || c = '\t' || c = '\n' || c = '\r'

def skipBlanks (cs : List Char) : List Char :=
  cs.dropWhile isBlank

/-! ### Strings -/

/-- A part of a string: a character, or a surrogate written as an escape. -/
inductive Piece where
  | char (c : Char)
  | surrogate (n : Nat)
  deriving DecidableEq

/-- The piece of a code unit. -/
def Piece.ofUnit (n : Nat) : Piece :=
  if 0xd800 ≤ n ∧ n ≤ 0xdfff then .surrogate n else .char (Char.ofNat n)

def simpleEscape? : Char → Option Char
  | '\x22' => some '\x22'
  | '\\' => some '\\'
  | '/' => some '/'
  | 'b' => some '\x08'
  | 'f' => some '\x0c'
  | 'n' => some '\n'
  | 'r' => some '\r'
  | 't' => some '\t'
  | _ => none

/-- The pieces up to the closing quote. -/
def pieces : Reader (List Piece)
  | [] => none
  | '\\' :: 'u' :: a :: b :: c :: d :: cs => do
    let n ← hexNumber? [a, b, c, d]
    let (ps, rest) ← pieces cs
    return (.ofUnit n :: ps, rest)
  | '\\' :: e :: cs => do
    let c ← simpleEscape? e
    let (ps, rest) ← pieces cs
    return (.char c :: ps, rest)
  | c :: cs =>
    if c = '\x22' then some ([], cs)
    else if c = '\\' ∨ c.toNat < 0x20 then none
    else do
      let (ps, rest) ← pieces cs
      return (.char c :: ps, rest)

/-- The characters of the pieces; a leading surrogate has to stand directly before a trailing one. -/
def joinPieces : List Piece → Option (List Char)
  | [] => some []
  | .char c :: ps => (joinPieces ps).map (c :: ·)
  | .surrogate h :: .surrogate l :: ps =>
    if h < 0xdc00 ∧ 0xdc00 ≤ l then
      (joinPieces ps).map (Char.ofNat (0x10000 + (h - 0xd800) * 0x400 + (l - 0xdc00)) :: ·)
    else none
  | .surrogate _ :: _ => none

/-- A string, its opening quote read already. -/
def stringBody : Reader (Option String) := fun cs =>
  (pieces cs).map fun (ps, rest) => ((joinPieces ps).map String.ofList, rest)

/-! ### Numbers -/

/-- The digits in front, as numbers. -/
def digits (cs : List Char) : List Nat × List Char :=
  ((cs.takeWhile Char.isDigit).map (·.toNat - 48), cs.dropWhile Char.isDigit)

/-- Digits in front, at least one. -/
def someDigits : Reader (List Nat) := fun cs =>
  match digits cs with
  | ([], _) => none
  | (ds, rest) => some (ds, rest)

def ofDigits (ds : List Nat) : Nat :=
  ds.foldl (fun n d => n * 10 + d) 0

/-- The digits before the point: one zero, or a number without leading zeros. -/
def wholeDigits : Reader (List Nat) := fun cs =>
  match someDigits cs with
  | some (0 :: _ :: _, _) => none
  | other => other

def fractionDigits : Reader (List Nat)
  | '.' :: cs => someDigits cs
  | cs => some ([], cs)

/-- The exponent behind its mark. -/
def signedExponent : Reader Int
  | '-' :: cs => (someDigits cs).map fun (ds, rest) => (-ofDigits ds, rest)
  | '+' :: cs => (someDigits cs).map fun (ds, rest) => ((ofDigits ds : Int), rest)
  | cs => (someDigits cs).map fun (ds, rest) => ((ofDigits ds : Int), rest)

def exponentPart : Reader (Option Int)
  | 'e' :: cs => (signedExponent cs).map fun (e, rest) => (some e, rest)
  | 'E' :: cs => (signedExponent cs).map fun (e, rest) => (some e, rest)
  | cs => some (none, cs)

def unsigned (negative : Bool) : Reader Numeral := fun cs => do
  let (whole, cs) ← wholeDigits cs
  let (fraction, cs) ← fractionDigits cs
  let (exponent, cs) ← exponentPart cs
  return (⟨negative, whole, fraction, exponent⟩, cs)

def numeral : Reader Numeral
  | '-' :: cs => unsigned true cs
  | cs => unsigned false cs

/-! ### Documents -/

mutual

/-- A document of at most `fuel` nested readings. -/
def document : Nat → Reader Raw
  | 0, _ => none
  | fuel + 1, cs =>
    match skipBlanks cs with
    | 'n' :: 'u' :: 'l' :: 'l' :: rest => some (.null, rest)
    | 't' :: 'r' :: 'u' :: 'e' :: rest => some (.bool true, rest)
    | 'f' :: 'a' :: 'l' :: 's' :: 'e' :: rest => some (.bool false, rest)
    | '\x22' :: rest => (stringBody rest).map fun (s, rest) => (.string s, rest)
    | '[' :: rest =>
      match skipBlanks rest with
      | ']' :: rest => some (.array [], rest)
      | _ => (itemList fuel rest).map fun (items, rest) => (.array items, rest)
    | '\x7b' :: rest =>
      match skipBlanks rest with
      | '\x7d' :: rest => some (.object [], rest)
      | _ => (memberList fuel rest).map fun (members, rest) => (.object members, rest)
    | rest => (numeral rest).map fun (t, rest) => (.number t.value, rest)

/-- The items of an array, one at least, and the closing bracket. -/
def itemList : Nat → Reader (List Raw)
  | 0, _ => none
  | fuel + 1, cs => do
    let (item, cs) ← document fuel cs
    match skipBlanks cs with
    | ',' :: cs => (itemList fuel cs).map fun (items, rest) => (item :: items, rest)
    | ']' :: cs => some ([item], cs)
    | _ => none

/-- The members of an object, one at least, and the closing brace. -/
def memberList : Nat → Reader (List (Option String × Raw))
  | 0, _ => none
  | fuel + 1, cs =>
    match skipBlanks cs with
    | '\x22' :: cs => do
      let (key, cs) ← stringBody cs
      match skipBlanks cs with
      | ':' :: cs =>
        let (item, cs) ← document fuel cs
        match skipBlanks cs with
        | ',' :: cs =>
          (memberList fuel cs).map fun (members, rest) => ((key, item) :: members, rest)
        | '\x7d' :: cs => some ([(key, item)], cs)
        | _ => none
      | _ => none
    | _ => none

end

/-- Reads a whole text. A nested reading has a comma or one of a pair of brackets to itself, so the
length bounds their number. -/
def parse? (s : String) : Option Raw :=
  match document (s.length + 1) s.toList with
  | some (r, rest) => if (skipBlanks rest).isEmpty then some r else none
  | none => none

end SchemaGo.Json
