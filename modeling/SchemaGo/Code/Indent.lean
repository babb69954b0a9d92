import SchemaGo.Json.Decoder
import SchemaGo.Text.Basic

/-! Indentation. One level is a tab or a number of spaces, and only lines with characters get it. -/

namespace SchemaGo.Code

open Json (Decoder)

inductive Indent where
  | spaces (width : Nat)
  | tab
  deriving DecidableEq, Inhabited

namespace Indent

/-- The text of one level. -/
def unit : Indent → String
  | .spaces width => String.ofList (List.replicate width ' ')
  | .tab => "\t"

def applyLine (i : Indent) (line : String) : String :=
  if line.isEmpty then "" else i.unit ++ line

/-- Indents the lines of a text by one level. -/
def apply (i : Indent) (text : String) : String :=
  "\n".intercalate ((Text.lines text).map i.applyLine)

/-- A tab by its name, or an object with a number of spaces from 0 to 255. -/
def decoder : Decoder Indent
  | room + 1, .object [(some "spaces", r)] => (Decoder.byte room r).map .spaces
  | room, r => Decoder.choice (fun s => if s = "tab" then some .tab else none) room r

end Indent

end SchemaGo.Code
