import SchemaGo.Number.Basic
import SchemaGo.Keyed

/-! JSON values. The members of an object keep their order and their keys are distinct in every value
that is read. -/

namespace SchemaGo.Json

inductive Value where
  | null
  | bool (b : Bool)
  | number (n : Number)
  | string (s : String)
  | array (items : List Value)
  | object (members : List (String × Value))
  deriving Inhabited

namespace Value

def isNull : Value → Bool
  | .null => true
  | _ => false

/-- The member of an object with a given key. -/
def member? (v : Value) (key : String) : Option Value :=
  match v with
  | .object members => Keyed.get? members key
  | _ => none

end Value

end SchemaGo.Json
