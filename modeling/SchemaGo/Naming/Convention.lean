import SchemaGo.Text.Words

/-! Naming conventions: how the names of a document become names of generated code, and how the
results stay clear of reserved words and of leading digits. -/

namespace SchemaGo

structure Naming where
  toType : String → String
  toField : String → String
  /-- The file stem of a type name. -/
  toFile : String → String
  reserved : List String
  /-- The name used instead of a reserved or ill-starting one. -/
  escape : String → String

namespace Naming

def isReserved (n : Naming) (name : String) : Bool :=
  name ∈ n.reserved

def needsEscape (n : Naming) (name : String) : Bool :=
  n.isReserved name || name.toList.head?.any Char.isDigit

def safeName (n : Naming) (name : String) : String :=
  if n.needsEscape name then n.escape name else name

/-- The empty name stays empty. -/
def safeUnlessEmpty (n : Naming) (name : String) : String :=
  if name.isEmpty then name else n.safeName name

/-- The type name of a model name, empty if the model name has no usable character. -/
def typeName (n : Naming) (name : String) : String :=
  n.safeUnlessEmpty (n.toType name)

def fieldName (n : Naming) (name : String) : String :=
  n.safeUnlessEmpty (n.toField name)

/-- File stems are not escaped. -/
def fileName (n : Naming) (name : String) : String :=
  n.toFile name

end Naming

end SchemaGo
