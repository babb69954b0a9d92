import SchemaGo.Json.Printer

/-! JSON documents as they are written. Objects may repeat keys, a number may be too large for a value
and a string may hold an unpaired surrogate escape: such parts are `none`, so that a reader may still
skip them. -/

namespace SchemaGo.Json

inductive Raw where
  | null
  | bool (b : Bool)
  | number (n : Option Number)
  | string (s : Option String)
  | array (items : List Raw)
  | object (members : List (Option String × Raw))
  deriving Inhabited

namespace Raw

mutual

/-- The number of arrays and objects around the innermost part, itself included. -/
def depth : Raw → Nat
  | .array items => itemsDepth items + 1
  | .object members => membersDepth members + 1
  | _ => 0

def itemsDepth : List Raw → Nat
  | [] => 0
  | r :: rest => max (depth r) (itemsDepth rest)

def membersDepth : List (Option String × Raw) → Nat
  | [] => 0
  | (_, r) :: rest => max (depth r) (membersDepth rest)

end

/-- The members of an object, if every key is a text. -/
def entries? (members : List (Option String × Raw)) : Option (List (String × Raw)) :=
  members.mapM fun m => m.1.map (·, m.2)

/-- The value of a document with at most `room` arrays and objects inside each other. -/
def value? (room : Nat) : Raw → Option Value
  | .null => some .null
  | .bool b => some (.bool b)
  | .number n => n.map .number
  | .string s => s.map .string
  | .array items =>
    match room with
    | 0 => none
    | inner + 1 => (items.mapM (value? inner)).map .array
  | .object members =>
    match room with
    | 0 => none
    | inner + 1 => do
      let entries ← entries? members
      let values ← entries.mapM fun m => (value? inner m.2).map (m.1, ·)
      return .object (Keyed.ofList values)
termination_by structural room

end Raw

namespace Value

mutual

/-- A value as a document. -/
def raw : Value → Raw
  | .null => .null
  | .bool b => .bool b
  | .number n => .number (some n)
  | .string s => .string (some s)
  | .array items => .array (rawItems items)
  | .object members => .object (rawMembers members)

def rawItems : List Value → List Raw
  | [] => []
  | v :: r => raw v :: rawItems r

def rawMembers : List (String × Value) → List (Option String × Raw)
  | [] => []
  | (k, v) :: r => (some k, raw v) :: rawMembers r

end

end Value

end SchemaGo.Json
