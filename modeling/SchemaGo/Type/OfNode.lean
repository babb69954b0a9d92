import SchemaGo.Model.Index
import SchemaGo.Naming.Exported
import SchemaGo.Type.Expr

/-! The type of a node. A declared struct or enum is a named type. A reference to any other entry is an
alias and has the type of that entry; an alias that is being opened already is not opened again. What
has no type of its own has the type of any value. -/

namespace SchemaGo.TypeExpr

open Model (Index ModelNode TypeTag)

def ofScalar? : TypeTag → Option TypeExpr
  | .string => some .string
  | .integer => some .int
  | .number => some .float
  | .boolean => some .bool
  | _ => none

/-- The type of a reference: that of the alias it opens, or the one its target is declared under. -/
def ofReference (alias? : String → Option TypeExpr) (target : String) : TypeExpr :=
  (alias? target).getD (ofName (typeName target))

/-- The name that a struct or an enum is declared under. -/
def declaredName? (n : ModelNode) : Option String :=
  if n.kind = .other then none
  else (n.id.map typeName).filter (!·.isEmpty)

mutual

/-- The type of a node, where `alias?` gives the type of the alias with a key if it may be opened. -/
def ofNode (alias? : String → Option TypeExpr) : ModelNode → TypeExpr
  | n@⟨_, _, properties, _, additional, _, items, tuple, variants, reference, _⟩ =>
    match reference with
    | some target => ofReference alias? target
    | none =>
      match declaredName? n with
      | some name => .named name
      | none =>
        match n.singleType? with
        | some .string => .string
        | some .integer => .int
        | some .number => .float
        | some .boolean => .bool
        | some .object =>
          .dictionary (if properties.isEmpty then ofOption alias? additional else .any)
        | some .array => .array (ofOption alias? items)
        | some .tuple => .array (common (ofList alias? tuple))
        | some .union => common (ofList alias? variants)
        | some .reference => .any
        | some .unconstrained => .any
        | none => .any

def ofOption (alias? : String → Option TypeExpr) : Option ModelNode → TypeExpr
  | none => .any
  | some n => ofNode alias? n

def ofList (alias? : String → Option TypeExpr) : List ModelNode → List TypeExpr
  | [] => []
  | n :: r => ofNode alias? n :: ofList alias? r

end

/-- The type of a node while the aliases of `opened` are open and `room` more may be opened. -/
def within (x : Index) : Nat → List String → ModelNode → TypeExpr
  | 0, _, n => ofNode (fun _ => none) n
  | room + 1, opened, n =>
    ofNode (fun target =>
      if target ∈ opened then none
      else
        match x.get? target with
        | some m => if m.kind = .other then some (within x room (target :: opened) m) else none
        | none => none) n

/-- The type of a node. No key is opened twice, so the index has room for all that are opened. -/
def of (x : Index) (n : ModelNode) : TypeExpr :=
  within x x.size [] n

end SchemaGo.TypeExpr
