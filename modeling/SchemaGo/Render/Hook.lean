import SchemaGo.Render.Error

/-! Hooks and the stack of presets that they run through. The default preset is stage 0 and the
caller's presets follow. A content passes through every stage that has the hook, and a stage without
it leaves the content as it is but counts. -/

namespace SchemaGo.Render

/-- A hook takes the content of the stage before and returns its own, or fails with a message. Its
other effects are those of `m`. -/
abbrev Hook (m : Type → Type) := String → ExceptT String m String

structure Stack (P : Type) where
  default : P
  callers : List P := []

namespace Stack

variable {P : Type}

def stages (s : Stack P) : List P :=
  s.default :: s.callers

def push (s : Stack P) (p : P) : Stack P :=
  { s with callers := s.callers ++ [p] }

/-- The number of stages, the default one included. -/
def size (s : Stack P) : Nat :=
  s.stages.length

end Stack

variable {m : Type → Type} [Monad m]

/-- Runs hooks one after the other, the first one being stage `stage`. A failing hook ends the run,
and its stage is kept. -/
def runFrom (stage : Nat) : List (Option (Hook m)) → String → ExceptT (Nat × String) m String
  | [], content => pure content
  | none :: rest, content => runFrom (stage + 1) rest content
  | some hook :: rest, content => do
    let content ← ExceptT.adapt (stage, ·) (hook content)
    runFrom (stage + 1) rest content

/-- Runs the hook that `select` finds in each preset. The failure of a stage names the model. -/
def Stack.run {P : Type} (s : Stack P) (hook : HookName) (model : String)
    (select : P → Option (Hook m)) (seed : String) : ExceptT RenderError m String :=
  ExceptT.adapt (fun (stage, source) => .hookFailure model hook stage source)
    (runFrom 0 (s.stages.map select) seed)

end SchemaGo.Render
