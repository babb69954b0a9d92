import SchemaGo.Naming.Convention

/-! The names of Go code: exported identifiers in Pascal case and files in snake case. A keyword or a
name that starts with a digit gets the letter `N` in front. -/

namespace SchemaGo

def keywords : List String :=
  ["break", "case", "chan", "const", "continue", "default", "defer", "else", "fallthrough", "for",
    "func", "go", "goto", "if", "import", "interface", "map", "package", "range", "return", "select",
    "struct", "switch", "type", "var"]

/-- A field without usable characters is called `Field`. -/
def exportedField (key : String) : String :=
  let name := Text.pascalCase key
  if name.isEmpty then "Field" else name

def Naming.exported : Naming where
  toType := Text.pascalCase
  toField := exportedField
  toFile := Text.snakeCase
  reserved := keywords
  escape name := "N" ++ name

def typeName (id : String) : String :=
  Naming.exported.typeName id

def fieldName (key : String) : String :=
  Naming.exported.fieldName key

/-- The file that holds the declaration of a type. -/
def fileName (type : String) : String :=
  Naming.exported.fileName type ++ ".go"

end SchemaGo
