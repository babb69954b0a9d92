import SchemaGo.Text.Basic

/-! Quoted strings of TOML. A basic string has escapes and a literal one has none; with three quotes
either may run over several lines. Each reader starts behind the opening quotes. -/

namespace SchemaGo.Toml

open Text (Reader hexNumber?)

/-- Control characters other than the tab stand in no string and no comment. -/
def isControl (c : Char) : Bool :=
  (c.toNat < 0x20 && c ≠ '\t') || c = '\x7f'

def isSpace (c : Char) : Bool :=
  c = ' ' || c = '\t'

/-- The character of a hexadecimal code point, which is not a surrogate. -/
def codePoint? (cs : List Char) : Option Char := do
  let n ← hexNumber? cs
  if n < 0xd800 ∨ (0xdfff < n ∧ n < 0x110000) then some (Char.ofNat n) else none

def escaped? : Char → Option Char
  | 'b' => some '\x08'
  | 't' => some '\t'
  | 'n' => some '\n'
  | 'f' => some '\x0c'
  | 'r' => some '\r'
  | 'e' => some '\x1b'
  | '\x22' => some '\x22'
  | '\\' => some '\\'
  | _ => none

def cons (c : Char) : String × List Char → String × List Char
  | (s, rest) => (c.toString ++ s, rest)

def basic : Reader String
  | [] => none
  | '\\' :: 'x' :: a :: b :: cs => do
    let c ← codePoint? [a, b]
    (basic cs).map (cons c)
  | '\\' :: 'u' :: a :: b :: c :: d :: cs => do
    let c ← codePoint? [a, b, c, d]
    (basic cs).map (cons c)
  | '\\' :: 'U' :: a :: b :: c :: d :: e :: f :: g :: h :: cs => do
    let c ← codePoint? [a, b, c, d, e, f, g, h]
    (basic cs).map (cons c)
  | '\\' :: e :: cs => do
    let c ← escaped? e
    (basic cs).map (cons c)
  | c :: cs =>
    if c = '\x22' then some ("", cs)
    else if isControl c || c = '\\' then none
    else (basic cs).map (cons c)

def literal : Reader String
  | [] => none
  | c :: cs =>
    if c = '\x27' then some ("", cs)
    else if isControl c then none
    else (literal cs).map (cons c)

/-- Whether a line ends here but for blanks. -/
def endsLine (cs : List Char) : Bool :=
  match cs.dropWhile isSpace with
  | '\n' :: _ => true
  | '\r' :: '\n' :: _ => true
  | _ => false

/-- The closing quotes of a string of several lines, with up to two quotes that belong to it. -/
def closing? (quote : Char) (cs : List Char) : Option (String × List Char) :=
  let count := (cs.takeWhile (· = quote)).length
  if count < 3 then none
  else
    let inner := min (count - 3) 2
    some (String.ofList (List.replicate inner quote), cs.drop (inner + 3))

/-- A basic string of several lines. A backslash at the end of a line drops the blanks and line ends
that follow, which `trimming` goes through. -/
def multilineBasic (trimming : Bool) : Reader String
  | [] => none
  | '\r' :: '\n' :: cs =>
    if trimming then multilineBasic true cs else (multilineBasic false cs).map (cons '\n')
  | '\\' :: 'x' :: a :: b :: cs => do
    let c ← codePoint? [a, b]
    (multilineBasic false cs).map (cons c)
  | '\\' :: 'u' :: a :: b :: c :: d :: cs => do
    let c ← codePoint? [a, b, c, d]
    (multilineBasic false cs).map (cons c)
  | '\\' :: 'U' :: a :: b :: c :: d :: e :: f :: g :: h :: cs => do
    let c ← codePoint? [a, b, c, d, e, f, g, h]
    (multilineBasic false cs).map (cons c)
  | '\\' :: e :: cs =>
    if endsLine (e :: cs) then multilineBasic true (e :: cs)
    else do
      let c ← escaped? e
      (multilineBasic false cs).map (cons c)
  | c :: cs =>
    if trimming && (isSpace c || c = '\n') then multilineBasic true cs
    else
      match closing? '\x22' (c :: cs) with
      | some found => some found
      | none =>
        if c = '\n' then (multilineBasic false cs).map (cons c)
        else if isControl c || c = '\\' then none
        else (multilineBasic false cs).map (cons c)

def multilineLiteral : Reader String
  | [] => none
  | '\r' :: '\n' :: cs => (multilineLiteral cs).map (cons '\n')
  | c :: cs =>
    match closing? '\x27' (c :: cs) with
    | some found => some found
    | none =>
      if c = '\n' then (multilineLiteral cs).map (cons c)
      else if isControl c then none
      else (multilineLiteral cs).map (cons c)

/-- A line end directly behind three opening quotes does not count. -/
def dropLineEnd : List Char → List Char
  | '\n' :: cs => cs
  | '\r' :: '\n' :: cs => cs
  | cs => cs

/-- A string of any form. -/
def quoted? : Reader String
  | '\x22' :: '\x22' :: '\x22' :: cs => multilineBasic false (dropLineEnd cs)
  | '\x22' :: cs => basic cs
  | '\x27' :: '\x27' :: '\x27' :: cs => multilineLiteral (dropLineEnd cs)
  | '\x27' :: cs => literal cs
  | _ => none

end SchemaGo.Toml
