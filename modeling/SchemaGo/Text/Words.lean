import SchemaGo.Text.Letter

/-! The two spellings of a name. In Pascal case each word starts with a capital and the words are
joined; in snake case the words are in lower case and an underscore stands between them. A character
that is neither a letter nor a number only separates words. -/

namespace SchemaGo.Text

/-- The Pascal case of what follows; `start` says that the next letter begins a word. -/
def pascalFrom (start : Bool) : List Char → List Char
  | [] => []
  | c :: cs =>
    if isWord c then (if start then upper c else [c]) ++ pascalFrom false cs
    else pascalFrom true cs

def pascalCase (s : String) : String :=
  String.ofList (pascalFrom true s.toList)

/-- Adds an underscore to a reversed text, unless it is empty or has one there. -/
def separate : List Char → List Char
  | [] => []
  | c :: out => if c = '_' then c :: out else '_' :: c :: out

/-- Whether a capital after `before` and in front of `next` begins a word: after a small letter or
an ASCII digit, or as the last capital of a row that a small letter follows. -/
def startsWord (before next : Option Char) : Bool :=
  before.any fun p => isLower p || p.isDigit || (isUpper p && next.any isLower)

/-- The reversed snake case of what follows `before`, on top of the reversed text `out`. -/
def snakeFrom (before : Option Char) (out : List Char) : List Char → List Char
  | [] => out
  | c :: cs =>
    if !isWord c then snakeFrom (some c) (separate out) cs
    else if isUpper c && startsWord before cs.head? then
      snakeFrom (some c) ((lower c).reverse ++ separate out) cs
    else snakeFrom (some c) ((lower c).reverse ++ out) cs

def snakeCase (s : String) : String :=
  String.ofList ((snakeFrom none [] s.toList).dropWhile (· = '_')).reverse

end SchemaGo.Text
