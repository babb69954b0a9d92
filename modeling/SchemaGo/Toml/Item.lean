import SchemaGo.Keyed

/-! TOML values and documents under construction. A table is defined once: by a header, by dotted keys,
or as an inline table. A header may still define a table that longer headers only passed through, and
dotted keys may go on with a table that dotted keys began. -/

namespace SchemaGo.Toml

/-- Floats and dates are kept as their kinds only, since no setting holds one. -/
inductive Value where
  | string (s : String)
  | integer (n : Int)
  | float
  | boolean (b : Bool)
  | date
  | array (items : List Value)
  | table (members : List (String × Value))
  deriving Inhabited

/-- How a table came about. -/
inductive Origin where
  /-- Defined by a header of its own. -/
  | header
  /-- Passed through by a longer header. -/
  | passed
  /-- Begun by a dotted key. -/
  | dotted
  deriving DecidableEq

/-- What stands under a key: a closed value, an open table, or an array of open tables. -/
inductive Item where
  | value (v : Value)
  | table (origin : Origin) (entries : List (String × Item))
  | tables (entries : List (List (String × Item)))

abbrev Entries := List (String × Item)

/-- Puts an item under a dotted key, where `fresh` says that the entries may get the last key. -/
def putDotted (fresh : Bool) (item : Item) : List String → Entries → Option Entries
  | [], _ => none
  | [key], entries =>
    if fresh && (Keyed.get? entries key).isNone then some (Keyed.put entries key item) else none
  | key :: path, entries =>
    match Keyed.get? entries key with
    | none => (putDotted true item path []).map (Keyed.put entries key <| .table .dotted ·)
    | some (.table .header _) => none
    | some (.table origin inner) =>
      (putDotted (origin = .dotted) item path inner).map (Keyed.put entries key <| .table origin ·)
    | some _ => none

/-- Changes the entries of the last table of an array. -/
def changeLast (f : Entries → Option Entries) : List Entries → Option (List Entries)
  | [] => none
  | [entries] => (f entries).map ([·])
  | entries :: rest => (changeLast f rest).map (entries :: ·)

/-- Changes the item under the path of a header; an array of tables stands for its last table. -/
def changeAt (f : Option Item → Option Item) : List String → Entries → Option Entries
  | [], _ => none
  | [key], entries => (f (Keyed.get? entries key)).map (Keyed.put entries key)
  | key :: path, entries =>
    match Keyed.get? entries key with
    | none => (changeAt f path []).map (Keyed.put entries key <| .table .passed ·)
    | some (.table origin inner) =>
      (changeAt f path inner).map (Keyed.put entries key <| .table origin ·)
    | some (.tables list) =>
      (changeLast (changeAt f path) list).map (Keyed.put entries key <| .tables ·)
    | some (.value _) => none

/-- The header of a table. -/
def openTable : Option Item → Option Item
  | none => some (.table .header [])
  | some (.table .passed entries) => some (.table .header entries)
  | some _ => none

/-- The header of one more table of an array. -/
def appendTable : Option Item → Option Item
  | none => some (.tables [[]])
  | some (.tables list) => some (.tables (list ++ [[]]))
  | some _ => none

/-- A key and its value in the table that the latest header opened. -/
def putUnder (header key : List String) (v : Value) (entries : Entries) : Option Entries :=
  if header.isEmpty then putDotted true (.value v) key entries
  else
    changeAt (fun
      | some (.table origin inner) =>
        (putDotted true (.value v) key inner).map (.table origin ·)
      | some (.tables list) => (changeLast (putDotted true (.value v) key) list).map (.tables ·)
      | _ => none) header entries

mutual

def Item.close : Item → Value
  | .value v => v
  | .table _ entries => .table (closeEntries entries)
  | .tables list => .array (closeTables list)

def closeEntries : List (String × Item) → List (String × Value)
  | [] => []
  | (key, item) :: rest => (key, item.close) :: closeEntries rest

def closeTables : List (List (String × Item)) → List Value
  | [] => []
  | entries :: rest => .table (closeEntries entries) :: closeTables rest

end

end SchemaGo.Toml
