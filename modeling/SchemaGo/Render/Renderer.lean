import SchemaGo.Keyed
import SchemaGo.Render.Error
import SchemaGo.Render.Options
import SchemaGo.Type.OfNode

/-! What rendering a model goes by, and what a hook may ask for: the options, the index, and the names
and types of the generated code. Names that have to differ are searched for the first one that occurs a
second time. -/

namespace SchemaGo.Render

open Model (Index ModelNode)

structure Renderer where
  options : Options
  index : Index

/-- The type of a node as it is written. -/
def Renderer.typeText (r : Renderer) (n : ModelNode) : String :=
  (TypeExpr.of r.index n).text

/-- The type name that a model is declared under. -/
def modelTypeName (m : ModelNode) : Except RenderError String :=
  match m.id with
  | none => .error (.unnameableModel none)
  | some id =>
    let name := typeName id
    if name.isEmpty then .error (.unnameableModel (some id)) else .ok name

variable {α : Type}

/-- The first item whose name is in `seen` or belongs to an item before it, with that name and the
earlier item. -/
def firstRepeatFrom (name : α → String) (seen : List (String × α)) : List α → Option (String × α × α)
  | [] => none
  | a :: r =>
    match Keyed.get? seen (name a) with
    | some first => some (name a, first, a)
    | none => firstRepeatFrom name ((name a, a) :: seen) r

def firstRepeat? (name : α → String) (l : List α) : Option (String × α × α) :=
  firstRepeatFrom name [] l

end SchemaGo.Render
