import SchemaGo.Code.Indent

/-! Source text built line by line at a depth. A line gets as many indentation units as the depth
says, and an empty line of a text gets none. -/

namespace SchemaGo.Code

structure Builder where
  indent : Indent
  depth : Nat := 0
  out : String := ""

namespace Builder

/-- Nothing built yet. -/
def start (indent : Indent) : Builder :=
  { indent }

def pad (b : Builder) : String :=
  String.join (List.replicate b.depth b.indent.unit)

def line (b : Builder) (s : String) : Builder :=
  { b with out := b.out ++ b.pad ++ s ++ "\n" }

/-- An empty line. -/
def blank (b : Builder) : Builder :=
  { b with out := b.out ++ "\n" }

/-- The lines of a finished text, each at the current depth. -/
def text (b : Builder) (s : String) : Builder :=
  (Text.lines s).foldl (fun b l => if l.isEmpty then b.blank else b.line l) b

/-- The lines of a text as comment lines. -/
def comment (b : Builder) (s : String) : Builder :=
  (Text.lines s).foldl (fun b l => b.line ("// " ++ l)) b

def deeper (b : Builder) : Builder :=
  { b with depth := b.depth + 1 }

/-- One level back; the depth does not go below zero. -/
def shallower (b : Builder) : Builder :=
  { b with depth := b.depth - 1 }

/-- An opening line, a body one level deeper and a closing line. -/
def block (b : Builder) (opening closing : String) (body : Builder → Builder) : Builder :=
  ((body (b.line opening).deeper).shallower).line closing

/-- One step for each item, in order. -/
def each {α : Type} (b : Builder) (items : List α) (step : Builder → α → Builder) : Builder :=
  items.foldl step b

def build (b : Builder) : String :=
  b.out

/-- The text without the newlines at its end. -/
def trimmed (b : Builder) : String :=
  String.ofList (b.out.toList.reverse.dropWhile (· = '\n')).reverse

end Builder

end SchemaGo.Code
