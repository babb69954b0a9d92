import SchemaGo.Model.Index

/-! The models that get a declaration, in the order of generation: every entry of the index, and
behind it the named structs and enums nested in it. Each name occurs once, and an entry wins over a
nested model of the same name. -/

namespace SchemaGo.Model

/-- The named structs and enums of a list whose names are not yet seen, and the names seen then. -/
def declaredIn (seen : List String) : List ModelNode → List ModelNode × List String
  | [] => ([], seen)
  | n :: r =>
    match n.id with
    | some id =>
      if n.kind ≠ .other ∧ id ∉ seen then
        let (out, seen) := declaredIn (id :: seen) r
        (n :: out, seen)
      else declaredIn seen r
    | none => declaredIn seen r

/-- Each model followed by those nested in it. -/
def declaredFrom (seen : List String) : List ModelNode → List ModelNode
  | [] => []
  | m :: r =>
    let (nested, seen) := declaredIn seen m.descendants
    m :: nested ++ declaredFrom seen r

def Index.reachable (x : Index) : List ModelNode :=
  declaredFrom x.keys x.models

end SchemaGo.Model
