/-! Paths as texts. They are joined and split but never normalized. -/

namespace SchemaGo.File

/-- A path below a base. An absolute path stands for itself, and so does any path below the empty
base. -/
def join (base path : String) : String :=
  if path.toList.head? = some '/' ∨ base.isEmpty then path
  else if base.toList.getLast? = some '/' then base ++ path
  else base ++ "/" ++ path

/-- The parts of a path between its slashes. -/
def parts : List Char → List (List Char)
  | [] => [[]]
  | c :: cs =>
    if c = '/' then [] :: parts cs
    else
      match parts cs with
      | [] => [[c]]
      | p :: ps => (c :: p) :: ps

/-- A part that names nothing of its own: an empty one or a dot. -/
def isVoid (p : List Char) : Bool :=
  p.isEmpty || p = ['.']

/-- Drops void parts at the end of a reversed list, but not a dot that starts a relative path. -/
def dropVoid (rooted : Bool) : List (List Char) → List (List Char)
  | [] => []
  | p :: ps =>
    if p = ['.'] ∧ ps = [] ∧ !rooted then p :: ps
    else if isVoid p then dropVoid rooted ps
    else p :: ps

/-- The path without its last component, if it has one. -/
def parent? (path : String) : Option String :=
  let rooted := path.toList.head? = some '/'
  let body := if rooted then path.toList.drop 1 else path.toList
  match dropVoid rooted (parts body).reverse with
  | [] => none
  | _ :: rest =>
    let kept := (dropVoid rooted rest).reverse.map String.ofList
    some ((if rooted then "/" else "") ++ "/".intercalate kept)

end SchemaGo.File
