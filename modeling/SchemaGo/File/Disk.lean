import SchemaGo.File.Path

/-! Generated files and what writing them needs of a file system. A file whose contents are there
already is left alone. Otherwise its folders are made before it is written. -/

namespace SchemaGo.File

/-- The operations of a file system. The last two tell whether they succeeded. -/
structure Disk (m : Type → Type) where
  /-- The text of a file, if there is one that can be read. -/
  read : String → m (Option String)
  /-- Whether a path leads to a file or a folder. -/
  isPresent : String → m Bool
  /-- Makes a folder and those above it. -/
  createFolders : String → m Bool
  write : String → String → m Bool

/-- The line that marks a file as generated. -/
def generatedHeader : String := "// Code generated by sapling. DO NOT EDIT."

structure GeneratedFile where
  name : String
  body : String
  header : Option String := some generatedHeader

inductive WriteResult where
  | written
  | unchanged
  deriving DecidableEq

def WriteResult.name : WriteResult → String
  | .written => "written"
  | .unchanged => "unchanged"

inductive WriteError where
  | cannotCreate (folder : String)
  | cannotWrite (path : String)
  deriving DecidableEq

def WriteError.message : WriteError → String
  | .cannotCreate folder => "failed to create '" ++ folder ++ "'"
  | .cannotWrite path => "failed to write '" ++ path ++ "'"

namespace GeneratedFile

def path (f : GeneratedFile) (base : String) : String :=
  join base f.name

/-- The header and an empty line, if there is a header, and the body. -/
def contents (f : GeneratedFile) : String :=
  match f.header with
  | some header => header ++ "\n\n" ++ f.body
  | none => f.body

variable {m : Type → Type} [Monad m]

/-- Writes a text to a path, its folders made first. -/
def save (d : Disk m) (path text : String) : ExceptT WriteError m Unit := do
  if let some folder := parent? path then
    unless ← d.createFolders folder do throw (.cannotCreate folder)
  unless ← d.write path text do throw (.cannotWrite path)

/-- Writes the file below a base unless its contents are there already. -/
def write (f : GeneratedFile) (d : Disk m) (base : String) : ExceptT WriteError m WriteResult := do
  let path := f.path base
  if (← d.read path) = some f.contents then return .unchanged
  save d path f.contents
  return .written

end GeneratedFile

end SchemaGo.File
