import SchemaGo.Json.Parser

/-! Readers of JSON documents for types with a fixed shape. A record is an object, whose unknown keys
are skipped whatever their values hold, or an array of its fields in their order. A known key occurs at
most once. The number `room` bounds the arrays and objects inside each other that a reader may still
enter. -/

namespace SchemaGo.Json

abbrev Decoder (α : Type) := Nat → Raw → Option α

namespace Decoder

variable {α : Type}

def string : Decoder String
  | _, .string s => s
  | _, _ => none

/-- An integer from 0 to 255. -/
def byte : Decoder Nat
  | _, .number (some (.integer n)) => if 0 ≤ n ∧ n < 256 then some n.toNat else none
  | _, _ => none

/-- `null` stands for an absent value. -/
def optional (d : Decoder α) : Decoder (Option α)
  | _, .null => some none
  | room, r => (d room r).map some

def list (d : Decoder α) : Decoder (List α)
  | room + 1, .array items => items.mapM (d room)
  | _, _ => none

/-- One of finitely many names, also written as an object from the name to `null`. -/
def choice (ofName? : String → Option α) : Decoder α
  | _, .string s => s.bind ofName?
  | _ + 1, .object [(some s, .null)] => ofName? s
  | _, _ => none

/-- The fields of a record, absent ones `none`, with the room that is left inside it. -/
def record (names : List String) : Decoder (Nat × List (Option Raw))
  | room + 1, .object members => do
    let entries ← Raw.entries? members
    if (Keyed.keys (entries.filter (·.1 ∈ names))).Nodup then
      return (room, names.map (Keyed.get? entries))
    else none
  | room + 1, .array items =>
    if items.length ≤ names.length then
      some (room, items.map some ++ List.replicate (names.length - items.length) none)
    else none
  | _, _ => none

/-- A field of a record, or a default for an absent one. -/
def field (fields : List (Option Raw)) (i : Nat) (fallback : α) (d : Raw → Option α) : Option α :=
  match fields[i]? with
  | some (some r) => d r
  | _ => some fallback

/-- A field that has to be there. -/
def requiredField (fields : List (Option Raw)) (i : Nat) (d : Raw → Option α) : Option α :=
  match fields[i]? with
  | some (some r) => d r
  | _ => none

/-- Reads a text of at most 127 arrays and objects inside each other. -/
def ofText (d : Decoder α) (s : String) : Option α :=
  (parse? s).bind (d 127)

/-- Reads a value of any depth. -/
def ofValue (d : Decoder α) (v : Value) : Option α :=
  d v.raw.depth v.raw

end Decoder

end SchemaGo.Json
