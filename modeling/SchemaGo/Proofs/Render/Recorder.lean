import Mathlib.Data.List.Nodup
import SchemaGo.Render.Dependencies
import SchemaGo.Render.Enum
import SchemaGo.Render.Struct

/-! Hooks that record dependencies and have no other effect. What such a hook does is a tree: it names a
dependency, is told whether that is new, and goes on accordingly, until it returns a text or fails. A run
leaves behind what was there before and the names on its way that were not, in the order of their first
mention. -/

namespace SchemaGo.Render

/-- A computation that records dependencies. -/
inductive Recorder (α : Type) where
  | done (a : α)
  | add (name : String) (next : Bool → Recorder α)

namespace Recorder

variable {α β : Type}

protected def bind (f : α → Recorder β) : Recorder α → Recorder β
  | .done a => f a
  | .add name next => .add name fun new => (next new).bind f

instance : Monad Recorder where
  pure := .done
  bind p f := p.bind f

/-- The recording that a computation stands for. -/
def recording : Recorder α → Recording α
  | .done a => pure a
  | .add name next => do
    let new ← record name
    (next new).recording

/-- What the computation comes to when some dependencies are there. -/
def result : Recorder α → Dependencies → α
  | .done a, _ => a
  | .add name next, d => (next (!d.contains name)).result (d.add name)

/-- The names that are added on the way, each as often as it is. -/
def added : Recorder α → Dependencies → List String
  | .done _, _ => []
  | .add name next, d => name :: (next (!d.contains name)).added (d.add name)

theorem run_recording (p : Recorder α) (d : Dependencies) :
    StateT.run p.recording d = (p.result d, (p.added d).foldl Dependencies.add d) := by
  induction p generalizing d with
  | done a => rfl
  | add name next ih => exact ih (!d.contains name) (d.add name)

end Recorder

/-! ### Collected dependencies -/

namespace Dependencies

/-- Names that are added come behind those that are there, unless they are there themselves. -/
theorem toList_foldl_add (d : Dependencies) (names : List String) :
    (names.foldl add d).toList = d.toList ++ (names.filter (· ∉ d.toList)).eraseDups := by
  induction names generalizing d with
  | nil => simp
  | cons name names ih =>
    by_cases h : name ∈ d.toList
    · have hadd : d.add name = d := by simp [add, contains, h]
      simpa [hadd, h] using ih d
    · have hadd : (d.add name).toList = d.toList ++ [name] := by simp [add, contains, h]
      have hfilter : (names.filter (· ∉ d.toList ++ [name])) =
          (names.filter (· ∉ d.toList)).filter fun a => !a == name := by
        simp [List.filter_filter, Bool.and_comm, beq_eq_decide]
      rw [List.foldl_cons, ih, hadd, hfilter]
      simp [h, List.eraseDups_cons]

/-- From the start, the names are there once each, in the order of their first mention. -/
theorem toList_foldl_add_empty (names : List String) :
    (names.foldl add {}).toList = names.eraseDups := by
  simpa using toList_foldl_add {} names

theorem toList_foldl_add_eq_nil_iff (names : List String) :
    (names.foldl add {}).toList = [] ↔ names = [] := by
  rw [toList_foldl_add_empty]
  cases names <;> simp [List.eraseDups_cons]

theorem nodup_add {d : Dependencies} (h : d.toList.Nodup) (name : String) : (d.add name).toList.Nodup := by
  unfold add
  split
  · exact h
  · next hnew =>
    have hname : name ∉ d.toList := by simpa [contains] using hnew
    simpa [List.nodup_append] using ⟨h, fun a ha => fun heq => hname (heq ▸ ha)⟩

theorem nodup_foldl_add {d : Dependencies} (h : d.toList.Nodup) (names : List String) :
    (names.foldl add d).toList.Nodup := by
  induction names generalizing d with
  | nil => exact h
  | cons name names ih => exact ih (nodup_add h name)

end Dependencies

/-! ### Presets -/

/-- The hook with its effect on the dependencies. -/
def Hook.recording (hook : Hook Recorder) : Hook Recording := fun content =>
  ExceptT.mk (Recorder.recording (hook content).run)

theorem Hook.run_recording (hook : Hook Recorder) (content : String) (d : Dependencies) :
    (hook.recording content).run.run d =
      ((hook content).run.result d, ((hook content).run.added d).foldl Dependencies.add d) :=
  Recorder.run_recording (hook content).run d

def StructPreset.recording (p : StructPreset Recorder) : StructPreset Recording where
  self := p.self.map fun hook c => Hook.recording (hook c)
  field := p.field.map fun hook c => Hook.recording (hook c)
  additionalContent := p.additionalContent.map fun hook c => Hook.recording (hook c)

def EnumPreset.recording (p : EnumPreset Recorder) : EnumPreset Recording where
  self := p.self.map fun hook c => Hook.recording (hook c)
  item := p.item.map fun hook c => Hook.recording (hook c)

@[simp]
theorem StructPreset.recording_default :
    (StructPreset.default : StructPreset Recorder).recording = .default :=
  rfl

@[simp]
theorem EnumPreset.recording_default :
    (EnumPreset.default : EnumPreset Recorder).recording = .default :=
  rfl

def Preset.recording (p : Preset Recorder) : Preset Recording where
  structs := p.structs.map StructPreset.recording
  enums := p.enums.map EnumPreset.recording

end SchemaGo.Render
