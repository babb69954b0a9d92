/-! Go types of fields, and how they are written. -/

namespace SchemaGo

inductive TypeExpr where
  /-- The type of any value. -/
  | any
  | string
  | int
  | float
  | bool
  | array (element : TypeExpr)
  /-- A dictionary with strings as keys. -/
  | dictionary (value : TypeExpr)
  /-- A declared type. -/
  | named (name : String)
  deriving DecidableEq

namespace TypeExpr

def anyText : String := "interface\x7b\x7d"

def arrayText (element : String) : String :=
  "[]" ++ element

def dictionaryText (value : String) : String :=
  "map[string]" ++ value

/-- A type of values that may be absent. -/
def optionalText (inner : String) : String :=
  "*" ++ inner

def text : TypeExpr → String
  | .any => anyText
  | .string => "string"
  | .int => "int"
  | .float => "float64"
  | .bool => "bool"
  | .array element => arrayText element.text
  | .dictionary value => dictionaryText value.text
  | .named name => name

/-- The declared type of a name; the empty name has none. -/
def ofName (name : String) : TypeExpr :=
  if name.isEmpty then .any else .named name

/-- The type that all of a list are, or the type of any value. -/
def common : List TypeExpr → TypeExpr
  | [] => .any
  | t :: ts => if ts.all (· = t) then t else .any

end TypeExpr

end SchemaGo
