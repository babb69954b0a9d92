/-! What is read off the front of a text: its lines and hexadecimal numbers.

A newline ends a line and a carriage return directly before it belongs to the line end; other carriage
returns stay. What follows the last newline is a line only if it is not empty, so the empty text has no
lines. -/

namespace SchemaGo.Text

def lineList : List Char → List (List Char)
  | [] => []
  | '\n' :: cs => [] :: lineList cs
  | '\r' :: '\n' :: cs => [] :: lineList cs
  | c :: cs =>
    match lineList cs with
    | [] => [[c]]
    | l :: ls => (c :: l) :: ls

def lines (s : String) : List String :=
  (lineList s.toList).map String.ofList

/-- Readers take the characters that are left and return what they read with the characters behind
it. -/
abbrev Reader (α : Type) := List Char → Option (α × List Char)

/-- The value of a hexadecimal digit of either case. -/
def hexDigit? (c : Char) : Option Nat :=
  if c.isDigit then some (c.toNat - 48)
  else if 'a' ≤ c ∧ c ≤ 'f' then some (c.toNat - 87)
  else if 'A' ≤ c ∧ c ≤ 'F' then some (c.toNat - 55)
  else none

/-- The number of hexadecimal digits, the leading one first. -/
def hexNumber? (cs : List Char) : Option Nat :=
  cs.foldlM (fun n c => (hexDigit? c).map (16 * n + ·)) 0

end SchemaGo.Text
