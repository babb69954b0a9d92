import SchemaGo.File.Disk

/-! A file system as a value: files and folders by the names that lead to them from the working folder.
A name has at most 255 bytes and a path at most 4095, and neither holds the null character. -/

namespace SchemaGo.File

/-- The names from the working folder to a file or folder. -/
abbrev Location := List String

structure Store where
  files : List (Location × String) := []
  folders : List Location := []
  deriving Inhabited

namespace Store

def text? (s : Store) (l : Location) : Option String :=
  s.files.lookup l

def isFolder (s : Store) (l : Location) : Bool :=
  l = [] || l ∈ s.folders

def isName (name : String) : Bool :=
  name.utf8ByteSize ≤ 255

/-- A path that the file system looks at. Absolute ones lead out of the store. -/
def isPath (path : String) : Bool :=
  path.utf8ByteSize ≤ 4095 && !path.toList.contains '\x00' && path.toList.head? ≠ some '/'

/-- One step from a folder: a void part stays there and two dots lead back. -/
def step (l : Location) (part : String) : Option Location :=
  if isVoid part.toList then some l
  else if part = ".." then (if l = [] then none else some l.dropLast)
  else if isName part then some (l ++ [part])
  else none

/-- Where the parts lead from a folder. All but the last have to lead to folders. -/
def follow (s : Store) (l : Location) : List String → Option Location
  | [] => some l
  | [part] => step l part
  | part :: rest =>
    match step l part with
    | some next => if s.isFolder next then follow s next rest else none
    | none => none

/-- Where a path leads. What ends in a slash or a dot is a folder. -/
def locate? (s : Store) (path : String) : Option Location :=
  if path.isEmpty || !isPath path then none
  else s.follow [] ((parts path.toList).map String.ofList)

def read? (s : Store) (path : String) : Option String :=
  (s.locate? path).bind s.text?

def isPresent (s : Store) (path : String) : Bool :=
  (s.locate? path).any fun l => s.isFolder l || (s.text? l).isSome

/-- Puts a text where no folder is. -/
def put? (s : Store) (path text : String) : Option Store := do
  let l ← s.locate? path
  if s.isFolder l then none
  else if (s.text? l).isSome then
    some { s with files := s.files.map fun f => if f.1 = l then (l, text) else f }
  else some { s with files := s.files ++ [(l, text)] }

/-- Makes the folders of a list of parts as far as they go, and tells whether all were made. -/
def makeFolders (s : Store) (l : Location) : List String → Store × Bool
  | [] => (s, true)
  | part :: rest =>
    match step l part with
    | none => (s, false)
    | some next =>
      if s.isFolder next then makeFolders s next rest
      else if (s.text? next).isSome then (s, false)
      else makeFolders { s with folders := s.folders ++ [next] } next rest

def createFolders (s : Store) (path : String) : Store × Bool :=
  if !isPath path then (s, false)
  else s.makeFolders [] ((parts path.toList).map String.ofList)

def remove (s : Store) (path : String) : Store :=
  match s.locate? path with
  | some l => { s with files := s.files.filter (·.1 ≠ l) }
  | none => s

/-- The store as a disk. -/
def disk : Disk (StateM Store) where
  read path := do return (← get).read? path
  isPresent path := do return (← get).isPresent path
  createFolders path := modifyGet fun s => ((s.createFolders path).2, (s.createFolders path).1)
  write path text := modifyGet fun s =>
    match s.put? path text with
    | some s => (true, s)
    | none => (false, s)

/-- Puts a text at a path, its folders made first, if that is possible. -/
def place (s : Store) (path text : String) : Store :=
  let s := match parent? path with
    | some folder => (s.createFolders folder).1
    | none => s
  (s.put? path text).getD s

/-- The files with their paths, sorted by path. -/
def listing (s : Store) : List (String × String) :=
  (s.files.map fun f => ("/".intercalate f.1, f.2)).mergeSort fun a b => a.1 ≤ b.1

/-- The files that differ from an earlier store, sorted by path. -/
def changes (s earlier : Store) : List (String × String) :=
  let before := earlier.listing
  s.listing.filter fun f => before.lookup f.1 ≠ some f.2

end Store

end SchemaGo.File
