import SchemaGo.Toml.Item
import SchemaGo.Toml.Quoted
import SchemaGo.Toml.Scalar

/-! Reading TOML documents. Inline tables may run over several lines and end in a comma. -/

namespace SchemaGo.Toml

open Text (Reader)

def skipSpaces (cs : List Char) : List Char :=
  cs.dropWhile isSpace

/-- Skips blanks, line ends and comments; `inside` says that a comment has begun. -/
def skipLines (inside : Bool) : List Char → Option (List Char)
  | [] => some []
  | '\n' :: cs => skipLines false cs
  | '\r' :: '\n' :: cs => skipLines false cs
  | c :: cs =>
    if inside then (if isControl c then none else skipLines true cs)
    else if isSpace c then skipLines false cs
    else if c = '#' then skipLines true cs
    else some (c :: cs)

/-- The rest of a line: blanks, a comment, and the line end or the end of the document. -/
def lineEnd (cs : List Char) : Option (List Char) :=
  let cs := skipSpaces cs
  let cs := match cs with
    | '#' :: cs => cs.dropWhile (!isControl ·)
    | cs => cs
  match cs with
  | [] => some []
  | '\n' :: cs => some cs
  | '\r' :: '\n' :: cs => some cs
  | _ => none

/-! ### Keys -/

def isBare (c : Char) : Bool :=
  c.isAlphanum || c = '_' || c = '-'

def simpleKey : Reader String
  | '\x22' :: cs => basic cs
  | '\x27' :: cs => literal cs
  | cs =>
    match cs.takeWhile isBare with
    | [] => none
    | key => some (String.ofList key, cs.dropWhile isBare)

/-- A key of at most `fuel` parts with dots between them, and the blanks behind it. -/
def dottedKey : Nat → Reader (List String)
  | 0, _ => none
  | fuel + 1, cs => do
    let (key, cs) ← simpleKey (skipSpaces cs)
    match skipSpaces cs with
    | '.' :: cs => (dottedKey fuel cs).map fun (path, rest) => (key :: path, rest)
    | cs => some ([key], cs)

/-! ### Values -/

def isScalarChar (c : Char) : Bool :=
  c.isAlphanum || c = '_' || c = '-' || c = '+' || c = '.' || c = ':'

/-- An unquoted scalar. A time may follow a date behind one blank. -/
def scalar : Reader Value := fun cs =>
  let word := cs.takeWhile isScalarChar
  let rest := cs.dropWhile isScalarChar
  match skipDate word, rest with
  | some [], ' ' :: d :: more =>
    if d.isDigit then
      (scalar? (word ++ ' ' :: (d :: more).takeWhile isScalarChar)).map
        (·, (d :: more).dropWhile isScalarChar)
    else (scalar? word).map (·, rest)
  | _, _ => (scalar? word).map (·, rest)

mutual

/-- A value of at most `fuel` nested readings. -/
def value : Nat → Reader Value
  | 0, _ => none
  | fuel + 1, cs =>
    match cs with
    | '[' :: cs => (items fuel cs).map fun (vs, rest) => (.array vs, rest)
    | '\x7b' :: cs =>
      (members fuel [] cs).map fun (entries, rest) => (.table (closeEntries entries), rest)
    | c :: _ =>
      if c = '\x22' || c = '\x27' then (quoted? cs).map fun (s, rest) => (.string s, rest)
      else scalar cs
    | [] => none

/-- The items of an array up to the closing bracket. -/
def items : Nat → Reader (List Value)
  | 0, _ => none
  | fuel + 1, cs => do
    match ← skipLines false cs with
    | ']' :: cs => some ([], cs)
    | cs =>
      let (v, cs) ← value fuel cs
      match ← skipLines false cs with
      | ',' :: cs => (items fuel cs).map fun (vs, rest) => (v :: vs, rest)
      | ']' :: cs => some ([v], cs)
      | _ => none

/-- The members of an inline table up to the closing brace, put to the entries before them. -/
def members : Nat → Entries → Reader Entries
  | 0, _, _ => none
  | fuel + 1, entries, cs => do
    match ← skipLines false cs with
    | '\x7d' :: cs => some (entries, cs)
    | cs =>
      let (key, cs) ← dottedKey fuel cs
      match cs with
      | '=' :: cs =>
        let (v, cs) ← value fuel (skipSpaces cs)
        let entries ← putDotted true (.value v) key entries
        match ← skipLines false cs with
        | ',' :: cs => members fuel entries cs
        | '\x7d' :: cs => some (entries, cs)
        | _ => none
      | _ => none

end

/-! ### Documents -/

/-- The lines of a document, put to the entries before them under the latest header. -/
def expressions : Nat → List String → Entries → List Char → Option Entries
  | 0, _, _, _ => none
  | fuel + 1, header, entries, cs => do
    match ← skipLines false cs with
    | [] => some entries
    | '[' :: '[' :: cs =>
      let (path, cs) ← dottedKey fuel cs
      match cs with
      | ']' :: ']' :: cs =>
        expressions fuel path (← changeAt appendTable path entries) (← lineEnd cs)
      | _ => none
    | '[' :: cs =>
      let (path, cs) ← dottedKey fuel cs
      match cs with
      | ']' :: cs => expressions fuel path (← changeAt openTable path entries) (← lineEnd cs)
      | _ => none
    | cs =>
      let (key, cs) ← dottedKey fuel cs
      match cs with
      | '=' :: cs =>
        let (v, cs) ← value fuel (skipSpaces cs)
        expressions fuel header (← putUnder header key v entries) (← lineEnd cs)
      | _ => none

/-- A byte order mark may start a document. -/
def dropMark : List Char → List Char
  | '\ufeff' :: cs => cs
  | cs => cs

/-- Reads a document. Each nested reading takes a character, so the length bounds them. -/
def parse? (s : String) : Option (List (String × Value)) :=
  (expressions (s.length + 1) [] [] (dropMark s.toList)).map closeEntries

end SchemaGo.Toml
