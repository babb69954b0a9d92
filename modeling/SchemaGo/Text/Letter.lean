import SchemaGo.Text.Table.Alphanumeric
import SchemaGo.Text.Table.Uppercase
import SchemaGo.Text.Table.Lowercase
import SchemaGo.Text.Table.UpperMap
import SchemaGo.Text.Table.LowerMap

/-! The classes of characters that names are made of, and their case mappings. A mapping may give
several characters: `ß` has the upper-case form `SS`. -/

namespace SchemaGo.Text

/-- Letters and numbers of any script, and the marks that count as letters. -/
def isWord (c : Char) : Bool :=
  inRuns Table.alphanumeric c

def isUpper (c : Char) : Bool :=
  inRuns Table.uppercase c

def isLower (c : Char) : Bool :=
  inRuns Table.lowercase c

def upper (c : Char) : List Char :=
  mapCase Table.upperRuns Table.upperExpansions c

def lower (c : Char) : List Char :=
  mapCase Table.lowerRuns Table.lowerExpansions c

end SchemaGo.Text
