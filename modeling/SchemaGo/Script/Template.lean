/-! Replacement in texts: all occurrences of a pattern, and variables in templates. Both are one scan
from left to right, and what is put in is not scanned again. -/

namespace SchemaGo.Script

/-- Replaces the occurrences of `pattern` behind the next `skip` characters, which are dropped. -/
def replaceFrom (pattern image : List Char) : Nat → List Char → List Char
  | _, [] => []
  | skip + 1, _ :: cs => replaceFrom pattern image skip cs
  | 0, c :: cs =>
    if pattern.isPrefixOf (c :: cs) then image ++ replaceFrom pattern image (pattern.length - 1) cs
    else c :: replaceFrom pattern image 0 cs

/-- Replaces all occurrences of a nonempty pattern that do not overlap. -/
def replaceAll (pattern image text : String) : String :=
  String.ofList (replaceFrom pattern.toList image.toList 0 text.toList)

/-- The variables that a template may name, with their values. -/
abbrev Variables := List (String × String)

/-- How a variable is written in a template. -/
def placeholder (name : String) : List Char :=
  '$' :: '\x7b' :: (name.toList ++ ['\x7d'])

/-- Expands the placeholders behind the next `skip` characters, which are dropped. -/
def expandFrom (vars : Variables) : Nat → List Char → List Char
  | _, [] => []
  | skip + 1, _ :: cs => expandFrom vars skip cs
  | 0, c :: cs =>
    match vars.find? fun v => (placeholder v.1).isPrefixOf (c :: cs) with
    | some (name, value) => value.toList ++ expandFrom vars ((placeholder name).length - 1) cs
    | none => c :: expandFrom vars 0 cs

/-- Replaces each placeholder of a known variable by its value; other text stays as it is. -/
def expand (vars : Variables) (template : String) : String :=
  String.ofList (expandFrom vars 0 template.toList)

end SchemaGo.Script
