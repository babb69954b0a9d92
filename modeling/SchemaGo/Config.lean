import SchemaGo.Render.Options
import SchemaGo.Toml.Parser

/-! Settings in TOML: the options of the generator, the package, and the configuration file with both
in its `go` table. Unknown keys are skipped. An option may be written as a table from its name to an
empty table, as data without content is. -/

namespace SchemaGo.Config

open Code (Indent)
open Render (ConstantTyping Options)
open Toml (Value)

/-- What may stand for no content behind the name of an option. -/
def isUnit (arrays : Bool) : Value → Bool
  | .table [] => true
  | .array [] => arrays
  | _ => false

/-- One of finitely many names; `arrays` says whether an empty array is no content too. -/
def choice? {α : Type} (arrays : Bool) (ofName? : String → Option α) : Value → Option α
  | .string s => ofName? s
  | .table [(name, v)] => if isUnit arrays v then ofName? name else none
  | _ => none

def indent? (arrays : Bool) : Value → Option Indent
  | .table [("spaces", .integer n)] => if 0 ≤ n ∧ n < 256 then some (.spaces n.toNat) else none
  | v => choice? arrays (fun s => if s = "tab" then some .tab else none) v

/-- A setting, or a default if it is not there. -/
def setting {α : Type} (table : List (String × Value)) (key : String) (fallback : α)
    (read : Value → Option α) : Option α :=
  match Keyed.get? table key with
  | some v => read v
  | none => some fallback

def options? (arrays : Bool) (table : List (String × Value)) : Option Options := do
  return {
    indent := ← setting table "indent" .tab (indent? arrays)
    constantTyping := ← setting table "constant_typing" .firstOnly
      (choice? arrays ConstantTyping.ofName?) }

def string? : Value → Option String
  | .string s => some s
  | _ => none

end Config

/-- The contents of a configuration file. -/
structure Config where
  package : Option String := none
  options : Render.Options := {}
  deriving DecidableEq, Inhabited

namespace Config

def ofTable? (table : List (String × Toml.Value)) : Option Config := do
  return {
    package := ← setting table "package" none fun v => (string? v).map some
    options := ← options? false table }

/-- Reads a configuration file. -/
def ofText? (s : String) : Option Config := do
  let table ← Toml.parse? s
  match Keyed.get? table "go" with
  | none => some {}
  | some (.table settings) => ofTable? settings
  | some _ => none

/-- Reads options that stand alone. -/
def optionsOfText? (s : String) : Option Render.Options :=
  (Toml.parse? s).bind (options? true)

/-- Reads a package name that stands alone. -/
def packageOfText? (s : String) : Option String := do
  string? (← Keyed.get? (← Toml.parse? s) "package_name")

end Config

end SchemaGo
