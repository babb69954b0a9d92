import SchemaGo.Command.Run

/-! The command line program: it renders a model document as Go files. -/

namespace SchemaGo.Main

open File (Disk)

/-- Whether an action succeeds. -/
def succeeds (act : IO Unit) : IO Bool := do
  try
    act
    return true
  catch _ => return false

/-- The file system of the machine. -/
def disk : Disk IO where
  read path := do
    try return some (← IO.FS.readFile path)
    catch _ => return none
  isPresent path := do
    try
      let _ ← IO.FS.Handle.mk path .read
      return true
    catch _ => return false
  createFolders path := if path.isEmpty then return true else succeeds (IO.FS.createDirAll path)
  write path text := succeeds (IO.FS.writeFile path text)

def printError (e : Render.RenderError) : IO Unit := do
  IO.eprintln (e.code ++ ": " ++ e.message)
  if let some help := e.help? then IO.eprintln ("  help: " ++ help)

def printFailure (f : Command.Failure) : IO Unit := do
  IO.eprintln ("Error: " ++ f.message)
  if let some cause := f.cause? then IO.eprintln ("Caused by: " ++ cause)

def usage : String :=
  "Usage: sapling generate [OPTIONS] <INPUT>\n       sapling completions [OPTIONS] <SHELL>"

end SchemaGo.Main

def main (args : List String) : IO UInt32 := do
  match SchemaGo.Command.ofArguments args with
  | .error .displayHelp =>
    IO.println SchemaGo.Main.usage
    return 0
  | .error .displayVersion =>
    IO.println "sapling 0.1.0"
    return 0
  | .error e =>
    IO.eprintln ("error: " ++ e.name ++ "\n\n" ++ SchemaGo.Main.usage)
    return 2
  | .ok command =>
    let report ← SchemaGo.Command.run SchemaGo.Main.disk command
    report.errors.forM SchemaGo.Main.printError
    IO.print report.output
    match report.failure with
    | none => return 0
    | some f =>
      SchemaGo.Main.printFailure f
      return 1
