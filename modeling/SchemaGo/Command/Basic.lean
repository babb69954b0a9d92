import SchemaGo.Command.Usage

/-! The commands of the program and their command lines. -/

namespace SchemaGo.Command

structure GenerateArguments where
  /-- The path of the model document. -/
  input : String
  config : Option String := none
  package : Option String := none
  /-- The folder that the files are written to. -/
  output : String := "."
  /-- Shows the files and writes none. -/
  dryRun : Bool := false
  deriving DecidableEq

inductive Shell where
  | bash | elvish | fish | powershell | zsh
  deriving DecidableEq

namespace Shell

def name : Shell → String
  | .bash => "bash"
  | .elvish => "elvish"
  | .fish => "fish"
  | .powershell => "powershell"
  | .zsh => "zsh"

def ofName? (s : String) : Option Shell :=
  [.bash, .elvish, .fish, .powershell, .zsh].find? (·.name = s)

end Shell

end Command

/-- A command to run. -/
inductive Command where
  | generate (arguments : Command.GenerateArguments)
  | completions (shell : Command.Shell) (output : Option String)
  deriving DecidableEq

namespace Command

def generateShape : Shape where
  argument := "input"
  flags := [⟨"config", some 'c', true⟩, ⟨"package", some 'p', true⟩, ⟨"output", some 'o', true⟩,
    ⟨"dry-run", none, false⟩]
  accepts name value := name = "package" || !value.isEmpty

def completionsShape : Shape where
  argument := "shell"
  flags := [⟨"output", some 'o', true⟩]
  accepts name value := if name = "shell" then (Shell.ofName? value).isSome else !value.isEmpty

def readGenerate (args : List String) : Except UsageError Command := do
  let (input, values) ← generateShape.read args
  return .generate {
    input
    config := values.lookup "config"
    package := values.lookup "package"
    output := (values.lookup "output").getD "."
    dryRun := (values.lookup "dry-run").isSome }

def readCompletions (args : List String) : Except UsageError Command := do
  let (shell, values) ← completionsShape.read args
  match Shell.ofName? shell with
  | some shell => return .completions shell (values.lookup "output")
  | none => .error .invalidValue

def isSubcommand (name : String) : Bool :=
  name ∈ ["generate", "completions", "help"]

/-- Help on a path of subcommands; only the top level has any. -/
def helpOn : List String → UsageError
  | [] => .displayHelp
  | [name] => if isSubcommand name then .displayHelp else .invalidSubcommand
  | _ => .invalidSubcommand

/-- The first option in a row of short ones in front of the subcommand. -/
def topShort : Option Char → UsageError
  | some 'h' => .displayHelp
  | some 'V' => .displayVersion
  | _ => .unknownArgument

/-- A long option in front of the subcommand. -/
def topLong (cs : List Char) : UsageError :=
  let (name, attached) := Shape.splitValue cs
  if name ≠ "help" ∧ name ≠ "version" then .unknownArgument
  else if attached.isSome then .tooManyValues
  else if name = "help" then .displayHelp
  else .displayVersion

/-- Behind `--` a subcommand is not expected any more. -/
def topTrailing : List String → UsageError
  | [] => .helpOnMissingArgument
  | arg :: _ => if isSubcommand arg then .unknownArgument else .invalidSubcommand

/-- Reads a command line without the program's name. -/
def ofArguments : List String → Except UsageError Command
  | [] => .error .helpOnMissingArgument
  | "generate" :: args => readGenerate args
  | "completions" :: args => readCompletions args
  | "help" :: args => .error (helpOn args)
  | "--" :: args => .error (topTrailing args)
  | arg :: _ =>
    match arg.toList with
    | '-' :: '-' :: cs => .error (topLong cs)
    | '-' :: c :: _ => .error (topShort (some c))
    | _ => .error .invalidSubcommand

end Command

end SchemaGo
