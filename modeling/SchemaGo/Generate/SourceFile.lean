import SchemaGo.Code.Builder

/-! Complete source files of a package. -/

namespace SchemaGo.Generate

open Code (Builder Indent)

/-- The import block of a file, or nothing if it imports nothing. -/
def importBlock (dependencies : List String) (indent : Indent) : String :=
  if dependencies.isEmpty then ""
  else
    (Builder.start indent)
      |>.block "import (" ")" (·.each dependencies fun b d => b.line ("\"" ++ d ++ "\""))
      |>.trimmed

/-- A file of one package: the package clause, the imports and the text. -/
def sourceFile (package : String) (indent : Indent) (dependencies : List String) (text : String) :
    String :=
  let b := ((Builder.start indent).line ("package " ++ package)).blank
  let b :=
    if dependencies.isEmpty then b else (b.text (importBlock dependencies indent)).blank
  (b.text text).build

end SchemaGo.Generate
