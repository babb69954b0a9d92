import SchemaGo.Code.Indent

/-! What a caller may choose about the generated code. -/

namespace SchemaGo.Render

open Json (Decoder)

/-- The constants of a block that state the type of their enum. -/
inductive ConstantTyping where
  | firstOnly
  | every
  deriving DecidableEq, Inhabited

namespace ConstantTyping

def name : ConstantTyping → String
  | .firstOnly => "first-only"
  | .every => "every"

def ofName? (s : String) : Option ConstantTyping :=
  [.firstOnly, .every].find? (·.name = s)

def decoder : Decoder ConstantTyping :=
  Decoder.choice ofName?

end ConstantTyping

structure Options where
  indent : Code.Indent := .tab
  constantTyping : ConstantTyping := .firstOnly
  deriving DecidableEq, Inhabited

namespace Options

def decoder : Decoder Options := fun room r => do
  let (room, fields) ← Decoder.record ["indent", "constant_typing"] room r
  return {
    indent := ← Decoder.field fields 0 .tab (Code.Indent.decoder room)
    constantTyping := ← Decoder.field fields 1 .firstOnly (ConstantTyping.decoder room) }

end Options

end SchemaGo.Render
