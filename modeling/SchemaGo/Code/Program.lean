import SchemaGo.Code.Builder

/-! Programs of builder steps as data. -/

namespace SchemaGo.Code

inductive Step where
  | line (s : String)
  | text (s : String)
  | comment (s : String)
  | blank
  | deeper
  | shallower
  | block (opening closing : String) (body : List Step)
  | each (items : List String)
  deriving Inhabited

namespace Step

mutual

def run (b : Builder) : Step → Builder
  | .line s => b.line s
  | .text s => b.text s
  | .comment s => b.comment s
  | .blank => b.blank
  | .deeper => b.deeper
  | .shallower => b.shallower
  | .block opening closing body => b.block opening closing fun b => runAll b body
  | .each items => b.each items Builder.line

def runAll (b : Builder) : List Step → Builder
  | [] => b
  | s :: r => runAll (run b s) r

end

end Step

end SchemaGo.Code
