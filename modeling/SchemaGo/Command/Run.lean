import SchemaGo.Command.Basic
import SchemaGo.Config
import SchemaGo.File.Disk
import SchemaGo.Generate.Generator
import SchemaGo.Model.Decode

/-! Running commands on a file system. The configuration is read before the model document. A model
that fails leaves the files of the others alone, but the run fails in the end. -/

namespace SchemaGo.Command

open File (Disk GeneratedFile WriteError WriteResult)
open Generate (Generator OutputModel)
open Model (Index)
open Render (RenderError)

/-- The configuration file that is read if none is named. -/
def configFile : String := "sapling.toml"

/-- The package of the generated files if none is named. -/
def defaultPackage : String := "models"

inductive Failure where
  | unreadable (path : String)
  | invalidConfig (path : String)
  | invalidDocument (path : String)
  | unwritten (file : String) (cause : WriteError)
  | unrendered (failed total : Nat)
  | uncreated (path : String)
  deriving DecidableEq

namespace Failure

def message : Failure → String
  | .unreadable path => "failed to read '" ++ path ++ "'"
  | .invalidConfig path => "invalid config '" ++ path ++ "'"
  | .invalidDocument path => "invalid model document '" ++ path ++ "'"
  | .unwritten file _ => "Failed to write " ++ file
  | .unrendered failed total =>
    toString failed ++ " of " ++ toString total ++ " models failed to render"
  | .uncreated path => "failed to create '" ++ path ++ "'"

def cause? : Failure → Option String
  | .unwritten _ cause => some cause.message
  | _ => none

end Failure

/-- What a run prints and how it ends. -/
structure Report where
  output : String := ""
  failure : Option Failure := none
  /-- The models that could not be rendered. -/
  errors : List RenderError := []

variable {m : Type → Type} [Monad m]

/-- Reads a file and its contents. -/
def load {α : Type} (d : Disk m) (read? : String → Option α) (invalid : String → Failure)
    (path : String) : ExceptT Failure m α := do
  match ← d.read path with
  | none => throw (.unreadable path)
  | some text =>
    match read? text with
    | none => throw (invalid path)
    | some a => return a

/-- The named configuration, or the one in the working folder, or none. -/
def loadConfig (d : Disk m) : Option String → ExceptT Failure m Config
  | some path => load d Config.ofText? .invalidConfig path
  | none => do
    if ← d.isPresent configFile then load d Config.ofText? .invalidConfig configFile
    else return {}

def loadIndex (d : Disk m) (path : String) : ExceptT Failure m Index :=
  load d (Json.Decoder.ofText Index.decoder) .invalidDocument path

/-- The files of the models that were rendered. -/
def filesOf (results : List (Except RenderError OutputModel)) : List GeneratedFile :=
  results.filterMap fun
    | .ok d => some { name := d.fileName, body := d.text }
    | .error _ => none

def errorsOf (results : List (Except RenderError OutputModel)) : List RenderError :=
  results.filterMap fun
    | .ok _ => none
    | .error e => some e

/-- The files under their names, and their number. -/
def preview (files : List GeneratedFile) : String :=
  String.join (files.map fun f => "── " ++ f.name ++ " ──\n" ++ f.contents ++ "\n")
    ++ "── Summary ──\n" ++ toString files.length ++ " files would be generated\n"

/-- The line about a file: a plus if it was written and an equals sign if it was there. -/
def fileLine (f : GeneratedFile) (base : String) (r : WriteResult) : String :=
  (match r with
    | .written => "  + "
    | .unchanged => "  = ") ++ f.path base ++ "\n"

/-- Writes files up to the first failure, and returns the lines about those before it. -/
def writeAll (d : Disk m) (base : String) : List GeneratedFile → m (String × Option Failure)
  | [] => pure ("", none)
  | f :: rest => do
    match ← (f.write d base).run with
    | .error e => return ("", some (.unwritten f.name e))
    | .ok r =>
      let (lines, failure) ← writeAll d base rest
      return (fileLine f base r ++ lines, failure)

/-- Writes the files, and counts them if none failed. -/
def writeFiles (d : Disk m) (base : String) (files : List GeneratedFile) :
    m (String × Option Failure) := do
  let (lines, failure) ← writeAll d base files
  if failure.isSome then return (lines, failure)
  else
    return (lines ++ "\nGenerated " ++ toString files.length ++ " files in " ++ base ++ "\n", none)

def runGenerate (d : Disk m) (a : GenerateArguments) : ExceptT Failure m Report := do
  let config ← loadConfig d a.config
  let index ← loadIndex d a.input
  let package := (a.package.or config.package).getD defaultPackage
  let generator : Generator := { options := config.options }
  let results := generator.generateFiles package index
  let files := filesOf results
  let errors := errorsOf results
  let (output, failure) ←
    if a.dryRun then pure (preview files, none) else ExceptT.lift (writeFiles d a.output files)
  let unrendered :=
    if errors.isEmpty then none else some (.unrendered errors.length results.length)
  return { output, failure := failure.or unrendered, errors }

/-- A script that completes the names of the subcommands. -/
def Shell.script : Shell → String
  | .bash => "complete -W 'generate completions help' sapling\n"
  | .elvish =>
    "set edit:completion:arg-completer[sapling] = \x7b|@args| put generate completions help \x7d\n"
  | .fish => "complete -c sapling -f -a 'generate completions help'\n"
  | .powershell =>
    "Register-ArgumentCompleter -Native -CommandName sapling -ScriptBlock "
      ++ "\x7b 'generate', 'completions', 'help' \x7d\n"
  | .zsh => "compctl -k '(generate completions help)' sapling\n"

def runCompletions (d : Disk m) (shell : Shell) : Option String → ExceptT Failure m Report
  | none => return { output := shell.script }
  | some path => do
    if ← d.write path shell.script then return {} else throw (.uncreated path)

/-- Runs a command. A failure before anything is printed leaves the output empty. -/
def run (d : Disk m) (c : Command) : m Report := do
  let result ← ExceptT.run <|
    match c with
    | .generate arguments => runGenerate d arguments
    | .completions shell output => runCompletions d shell output
  match result with
  | .ok report => return report
  | .error failure => return { failure := some failure }

end SchemaGo.Command
