import SchemaGo.Render.Hook
import SchemaGo.Script.Template

/-! Hooks written as lists of steps. The steps work on the content that the hook receives, and every
template may name the content at its step. -/

namespace SchemaGo.Script

open Render (Hook)

inductive Step where
  /-- Ends the hook unless a template expands to a given text. -/
  | only (template expected : String)
  | depend (template : String)
  | fail (template : String)
  | replace (pattern image : String)
  | set (template : String)
  deriving DecidableEq

variable {m : Type → Type} [Monad m]

/-- The hook of a list of steps, where `record` notes a dependency. -/
def run (record : String → m Unit) (vars : Variables) : List Step → Hook m
  | [], content => pure content
  | step :: rest, content =>
    let value := expand (("content", content) :: vars)
    match step with
    | .only template expected =>
      if value template = expected then run record vars rest content else pure content
    | .depend template => do
      ExceptT.lift (record (value template))
      run record vars rest content
    | .fail template => throw (value template)
    | .replace pattern image => run record vars rest (replaceAll pattern image content)
    | .set template => run record vars rest (value template)

end SchemaGo.Script
