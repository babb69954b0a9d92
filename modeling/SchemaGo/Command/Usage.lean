/-! Command lines. Options and arguments are read from left to right. An option's value is attached to
it or is the next argument, and it is checked once the argument behind it is seen, so a fault further
right may be reported first. -/

namespace SchemaGo.Command

/-- Why a command line is not run. -/
inductive UsageError where
  | helpOnMissingArgument
  | missingRequiredArgument
  | unknownArgument
  | invalidSubcommand
  | invalidValue
  | tooManyValues
  | argumentConflict
  | displayHelp
  | displayVersion
  deriving DecidableEq

def UsageError.name : UsageError → String
  | .helpOnMissingArgument => "DisplayHelpOnMissingArgumentOrSubcommand"
  | .missingRequiredArgument => "MissingRequiredArgument"
  | .unknownArgument => "UnknownArgument"
  | .invalidSubcommand => "InvalidSubcommand"
  | .invalidValue => "InvalidValue"
  | .tooManyValues => "TooManyValues"
  | .argumentConflict => "ArgumentConflict"
  | .displayHelp => "DisplayHelp"
  | .displayVersion => "DisplayVersion"

/-- An option of a subcommand. -/
structure Flag where
  name : String
  short : Option Char := none
  takesValue : Bool := true

/-- The shape of a subcommand: its one argument, its options, and which values they accept. Every
subcommand has the option `help` besides. -/
structure Shape where
  argument : String
  flags : List Flag
  accepts : String → String → Bool

/-- What is read of a command line: the values so far, and the name that waits for a value or whose
value waits to be checked. -/
structure Scan where
  values : List (String × String) := []
  pending : Option (String × Option String) := none
  sawArgument : Bool := false

namespace Shape

def flag? (s : Shape) (name : String) : Option Flag :=
  s.flags.find? (·.name = name)

def shortFlag? (s : Shape) (c : Char) : Option Flag :=
  s.flags.find? (·.short = some c)

/-- Adds a value, unless its name has one or does not accept it. -/
def add (s : Shape) (t : Scan) (name value : String) : Except UsageError Scan :=
  if (t.values.lookup name).isSome then .error .argumentConflict
  else if s.accepts name value then .ok { t with values := t.values ++ [(name, value)], pending := none }
  else .error .invalidValue

/-- Checks the pending value. -/
def settle (s : Shape) (t : Scan) : Except UsageError Scan :=
  match t.pending with
  | none => .ok t
  | some (_, none) => .error .invalidValue
  | some (name, some value) => s.add t name value

/-- An option with a value attached to it, if there is one. -/
def flagWith (s : Shape) (t : Scan) (f : Flag) (attached : Option String) : Except UsageError Scan := do
  let t ← s.settle t
  match f.takesValue, attached with
  | true, some value => s.add t f.name value
  | true, none => .ok { t with pending := some (f.name, none) }
  | false, _ => s.add t f.name "true"

/-- Splits a long option at its first equals sign. -/
def splitValue (cs : List Char) : String × Option String :=
  match cs.dropWhile (· ≠ '=') with
  | [] => (String.ofList cs, none)
  | _ :: value => (String.ofList (cs.takeWhile (· ≠ '=')), some (String.ofList value))

def long (s : Shape) (t : Scan) (cs : List Char) : Except UsageError Scan :=
  let (name, attached) := splitValue cs
  match s.flag? name with
  | some f =>
    if !f.takesValue && attached.isSome then .error .tooManyValues else s.flagWith t f attached
  | none =>
    if name ≠ "help" then .error .unknownArgument
    else if attached.isSome then .error .tooManyValues
    else s.settle t >>= fun _ => .error .displayHelp

/-- The value attached to a short option, behind an equals sign or not. -/
def attachedValue : List Char → Option String
  | [] => none
  | '=' :: cs => some (String.ofList cs)
  | cs => some (String.ofList cs)

/-- A row of short options; the first one that takes a value takes the rest of the row. -/
def short (s : Shape) (t : Scan) : List Char → Except UsageError Scan
  | [] => .ok t
  | c :: cs =>
    match s.shortFlag? c with
    | some f =>
      if f.takesValue then s.flagWith t f (attachedValue cs)
      else s.flagWith t f none >>= fun t => short s t cs
    | none =>
      if c = 'h' then s.settle t >>= fun _ => .error .displayHelp else .error .unknownArgument

/-- The argument of the subcommand. There is no second one. -/
def argumentValue (s : Shape) (t : Scan) (value : String) : Except UsageError Scan :=
  if t.sawArgument then .error .unknownArgument
  else do
    let t ← s.settle t
    return { t with pending := some (s.argument, some value), sawArgument := true }

/-- One argument in front of `--`. -/
def next (s : Shape) (t : Scan) (arg : String) : Except UsageError Scan :=
  match arg.toList with
  | '-' :: '-' :: cs => s.long t cs
  | '-' :: c :: cs => s.short t (c :: cs)
  | _ =>
    match t.pending with
    | some (name, none) => .ok { t with pending := some (name, some arg) }
    | _ => s.argumentValue t arg

/-- Reads the arguments; behind `--`, which `trailing` tells, none of them is an option. -/
def scan (s : Shape) (trailing : Bool) (t : Scan) : List String → Except UsageError Scan
  | [] => s.settle t
  | arg :: args =>
    if trailing then do
      let t ← s.argumentValue t arg
      scan s true t args
    else if arg = "--" then scan s true t args
    else do
      let t ← s.next t arg
      scan s false t args

/-- The argument and the options of a command line, by name. -/
def read (s : Shape) (args : List String) : Except UsageError (String × List (String × String)) := do
  let t ← s.scan false {} args
  match t.values.lookup s.argument with
  | some value => .ok (value, t.values)
  | none => .error .missingRequiredArgument

end Shape

end SchemaGo.Command
