import SchemaGo.Proofs.Render.Account
import SchemaGo.Proofs.Render.Recorder

/-! Notes of what every invocation of a hook adds to the dependencies. Hooks that write them down have the
result and the effect that they have without, and the account of the rendering is a part of the notes. The
dependencies are the names in the notes, each once and in the order of their first mention. -/

namespace SchemaGo.Render

open Model (ModelNode)

/-- An invocation of a hook and the names that it adds, each as often as it does. -/
structure Note (S : Type) where
  call : Call S
  added : List String

/-- The hook that writes down its invocations and what they add. -/
def Hook.noted {S : Type} (site : S) (stage : Nat) (hook : Hook Recorder) :
    Hook (StateM (Dependencies × List (Note S))) := fun received =>
  ExceptT.mk fun (d, notes) =>
    let p := (hook received).run
    let names := p.added d
    (p.result d, names.foldl .add d, notes ++ [⟨⟨site, stage, received, p.result d⟩, names⟩])

def StructPreset.noted (stage : Nat) (p : StructPreset Recorder) :
    StructPreset (StateM (Dependencies × List (Note StructSite))) where
  self := p.self.map fun hook c => Hook.noted .self stage (hook c)
  field := p.field.map fun hook c => Hook.noted (.field c.field.key) stage (hook c)
  additionalContent := p.additionalContent.map fun hook c =>
    Hook.noted .additionalContent stage (hook c)

def EnumPreset.noted (stage : Nat) (p : EnumPreset Recorder) :
    EnumPreset (StateM (Dependencies × List (Note EnumSite))) where
  self := p.self.map fun hook c => Hook.noted .self stage (hook c)
  item := p.item.map fun hook c => Hook.noted (.item c.index) stage (hook c)

section

variable {S : Type}

/-- The state of a rendering with its account, and the state of the rendering with its notes. -/
structure Notes (account : Dependencies × List (Call S)) (notes : Dependencies × List (Note S)) : Prop where
  same : notes.1 = account.1
  calls : notes.2.map (·.call) = account.2
  dependencies : notes.1 = (notes.2.flatMap (·.added)).foldl .add {}

theorem simulates_noted (site : S) (stage : Nat) (hook : Hook Recorder) :
    Hook.Simulates Notes (Hook.logged site stage hook.recording) (Hook.noted site stage hook) := by
  rintro content ⟨_, _⟩ ⟨d, notes⟩ ⟨rfl, rfl, hd⟩
  refine ⟨_, _, _, run_logged site stage (hook.run_recording content d) _, rfl, rfl, by simp, ?_⟩
  simpa using congrArg (((hook content).run.added d).foldl .add) hd

theorem contextHook_simulates_noted {C : Type} (site : C → S) (stage : Nat)
    (hook : Option (C → Hook Recorder)) :
    ContextHook.Simulates Notes
      ((hook.map fun hook c => (hook c).recording).map fun hook c => Hook.logged (site c) stage (hook c))
      (hook.map fun hook c => Hook.noted (site c) stage (hook c)) := by
  cases hook with
  | none => exact .none
  | some hook => exact .some fun c => simulates_noted (site c) stage (hook c)

theorem structPreset_simulates_noted (stage : Nat) (p : StructPreset Recorder) :
    (p.recording.logged stage).Simulates Notes (p.noted stage) where
  self := contextHook_simulates_noted (fun _ => StructSite.self) stage p.self
  field := contextHook_simulates_noted (fun c : FieldContext => StructSite.field c.field.key) stage p.field
  additionalContent :=
    contextHook_simulates_noted (fun _ => StructSite.additionalContent) stage p.additionalContent

theorem enumPreset_simulates_noted (stage : Nat) (p : EnumPreset Recorder) :
    (p.recording.logged stage).Simulates Notes (p.noted stage) where
  self := contextHook_simulates_noted (fun _ => EnumSite.self) stage p.self
  item := contextHook_simulates_noted (fun c : ItemContext => EnumSite.item c.index) stage p.item

theorem simulates_structRun_noted (r : Renderer) (presets : Stack (StructPreset Recorder)) (n : ModelNode) :
    Simulates Notes
      (structRun r ((presets.mapStages fun _ => StructPreset.recording).mapStages StructPreset.logged) n)
      (structRun r (presets.mapStages StructPreset.noted) n) := by
  rw [Stack.mapStages_mapStages]
  exact simulates_structRun (presets.forall₂_mapStages fun stage _ => structPreset_simulates_noted stage) r n

theorem simulates_enumRun_noted (r : Renderer) (presets : Stack (EnumPreset Recorder)) (n : ModelNode) :
    Simulates Notes
      (enumRun r ((presets.mapStages fun _ => EnumPreset.recording).mapStages EnumPreset.logged) n)
      (enumRun r (presets.mapStages EnumPreset.noted) n) := by
  rw [Stack.mapStages_mapStages]
  exact simulates_enumRun (presets.forall₂_mapStages fun stage _ => enumPreset_simulates_noted stage) r n

end

end SchemaGo.Render
