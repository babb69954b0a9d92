import SchemaGo.Proofs.Generate.Generator
import SchemaGo.Proofs.Render.Recorder

/-! A last preset whose only hook is for the declarations of one kind. A model that fails without it fails
as it did and the hook is not invoked. Otherwise the hook is invoked once, on the text without it, and the
result is its text, with the dependencies that it adds behind the others, or its failure. -/

namespace SchemaGo.Generate

open Model (Index ModelNode)
open Render (Accounts Call Dependencies EnumContext EnumPreset EnumSite Hook Preset Recorder Recording
  RenderError Simulates Stack StructContext StructPreset StructSite accountOf accountOf_map
  accountOf_of_run declare run_bind_of_error run_bind_of_ok run_declare run_logged run_map)

/-- The output of a hook that takes the text of another output. The dependencies that it adds come behind
those that are there. -/
def Output.through (o : Output) (hook : Hook Recorder) (fail : String → RenderError) :
    Except RenderError Output :=
  let p := (hook o.text).run
  match p.result ⟨o.dependencies⟩ with
  | .ok text =>
    .ok ⟨text, o.dependencies ++ ((p.added ⟨o.dependencies⟩).filter (· ∉ o.dependencies)).eraseDups⟩
  | .error source => .error (fail source)

/-- Runs a rendering that keeps its context, with no dependencies recorded before it. -/
def collectIn {C : Type} (run : ExceptT RenderError Recording (C × String)) :
    Except RenderError (C × Output) :=
  let (result, dependencies) := StateT.run run.run ({} : Dependencies)
  result.map fun (c, text) => (c, ⟨text, dependencies.toList⟩)

/-- What a hook `hook` for declarations makes of a rendering when it is put on top as the stage `stage`:
`without` and `calls` are the result and the account of the rendering without it, and `below` keeps the
context of the declaration. -/
structure OnTop {C S : Type} (site : S) (stage : Nat) (typeName : C → String) (hook : C → Hook Recorder)
    (below : Except RenderError (C × Output)) (without : Except RenderError Output) (calls : List (Call S))
    (result : Except RenderError Output) (calls' : List (Call S)) : Prop where
  /-- Nothing else is invoked at its stage. -/
  stage_unused : ∀ c ∈ calls, c.stage < stage
  failed : ∀ e, without = .error e → result = .error e ∧ calls' = calls
  invoked : ∀ o, without = .ok o → ∃ c, below = .ok (c, o) ∧
    calls' = calls ++ [⟨site, stage, o.text, (hook c o.text).run.result ⟨o.dependencies⟩⟩] ∧
    result = o.through (hook c) (.hookFailure (typeName c) .self stage ·)
  replaced : ∀ text, (∀ c content d, (hook c content).run.result d = .ok text) →
    ∀ o, without = .ok o → ∃ dependencies, result = .ok ⟨text, dependencies⟩

section

variable {C S : Type}

/-- A hook behind a rendering takes its output through. -/
theorem collect_declare {p : ExceptT RenderError Recording (C × String)} {c : C} {text : String}
    {d : Dependencies} (h : p.run.run {} = (.ok (c, text), d)) (stage : Nat) (typeName : C → String)
    (hook : C → Hook Recorder) :
    collect (p >>= declare stage typeName fun c => (hook c).recording) =
      (Output.mk text d.toList).through (hook c) (.hookFailure (typeName c) .self stage ·) := by
  have hrun := (run_bind_of_ok h (declare stage typeName fun c => (hook c).recording)).trans
    (run_declare stage typeName ((hook c).run_recording text d))
  rw [collect_of_run hrun, Dependencies.toList_foldl_add]
  unfold Output.through
  dsimp only
  cases (hook c text).run.result d <;> rfl

theorem accountOf_declare {q : ExceptT RenderError (StateM (Dependencies × List (Call S))) (C × String)}
    {c : C} {text : String} {d : Dependencies} {log : List (Call S)}
    (h : q.run.run ({}, []) = (.ok (c, text), d, log)) (site : S) (stage : Nat) (typeName : C → String)
    (hook : C → Hook Recorder) :
    accountOf (q >>= declare stage typeName fun c => Hook.logged site stage (hook c).recording) =
      log ++ [⟨site, stage, text, (hook c text).run.result d⟩] := by
  have hcall := run_logged site stage ((hook c).run_recording text d) log
  exact accountOf_of_run ((run_bind_of_ok h _).trans (run_declare stage typeName hcall))

theorem onTop_declare {p : ExceptT RenderError Recording (C × String)}
    {q : ExceptT RenderError (StateM (Dependencies × List (Call S))) (C × String)} {stage : Nat}
    (h : Simulates (Accounts stage) p q) (site : S) (typeName : C → String) (hook : C → Hook Recorder) :
    OnTop site stage typeName hook (collectIn p) (collect ((·.2) <$> p)) (accountOf q)
      (collect (p >>= declare stage typeName fun c => (hook c).recording))
      (accountOf (q >>= declare stage typeName fun c => Hook.logged site stage (hook c).recording)) := by
  obtain ⟨result, _, ⟨d, log⟩, hp, hq, rfl, hlog⟩ := h {} ({}, []) ⟨rfl, by simp⟩
  rw [accountOf_of_run hq, collect_of_run (run_map hp (·.2))]
  cases result with
  | error e =>
    rw [collect_of_run (run_bind_of_error hp _), accountOf_of_run (run_bind_of_error hq _)]
    refine ⟨hlog, ?_, ?_, ?_⟩
    · rintro e' ⟨⟩
      exact ⟨rfl, rfl⟩
    · rintro o ⟨⟩
    · rintro text - o ⟨⟩
  | ok run =>
    obtain ⟨c, text⟩ := run
    rw [collect_declare hp, accountOf_declare hq]
    refine ⟨hlog, ?_, ?_, ?_⟩
    · rintro e ⟨⟩
    · rintro o ⟨⟩
      refine ⟨c, ?_, rfl, rfl⟩
      rw [collectIn, hp]
      rfl
    · rintro text' hconstant o ⟨⟩
      simp only [Output.through, hconstant]
      exact ⟨_, rfl⟩

end

namespace Generator

/-- The generator with one more preset behind the others. -/
def push (g : Generator) (p : Preset Recording) : Generator :=
  { g with presets := g.presets ++ [p] }

/-- The output of a model that is rendered as a struct, with the context of its declaration. -/
def structRun (g : Generator) (m : ModelNode) (x : Index) : Except RenderError (StructContext × Output) :=
  collectIn (Render.structRun (g.renderer x) g.structStack (x.nameNested m))

/-- The output of a model that is rendered as an enum, with the context of its declaration. -/
def enumRun (g : Generator) (m : ModelNode) (x : Index) : Except RenderError (EnumContext × Output) :=
  collectIn (Render.enumRun (g.renderer x) g.enumStack (x.nameNested m))

end Generator

/-- The law of a last preset. -/
theorem last_hook_on_top (g : Generator) (m : ModelNode) (x : Index) :
    (∀ (hook : StructContext → Hook Recorder) (enums : Option (EnumPreset Recording)),
      let g' := g.push ⟨some { self := some fun c => (hook c).recording }, enums⟩
      OnTop .self g.structStack.size (·.typeName) hook (g.structRun m x) (g.renderStruct m x)
        (g.structCalls m x) (g'.renderStruct m x) (g'.structCalls m x)) ∧
    ∀ (hook : EnumContext → Hook Recorder) (structs : Option (StructPreset Recording)),
      let g' := g.push ⟨structs, some { self := some fun c => (hook c).recording }⟩
      OnTop .self g.enumStack.size (·.typeName) hook (g.enumRun m x) (g.renderEnum m x)
        (g.enumCalls m x) (g'.renderEnum m x) (g'.enumCalls m x) := by
  constructor
  · intro hook enums g'
    have hstack : g'.structStack = g.structStack.push { self := some fun c => (hook c).recording } := by
      simp [g', Generator.structStack, Generator.push, Stack.push]
    have hontop := onTop_declare (Render.simulates_structRun_logged (g.renderer x) g.structStack
      (x.nameNested m)) StructSite.self (·.typeName) hook
    rw [← accountOf_map _ (·.2), ← Render.renderStruct_eq, ← Render.renderStruct_eq,
      ← Render.renderStruct_push, ← Render.renderStruct_push_logged, ← hstack] at hontop
    exact hontop
  · intro hook structs g'
    have hstack : g'.enumStack = g.enumStack.push { self := some fun c => (hook c).recording } := by
      simp [g', Generator.enumStack, Generator.push, Stack.push]
    have hontop := onTop_declare (Render.simulates_enumRun_logged (g.renderer x) g.enumStack
      (x.nameNested m)) EnumSite.self (·.typeName) hook
    rw [← accountOf_map _ (·.2), ← Render.renderEnum_eq, ← Render.renderEnum_eq,
      ← Render.renderEnum_push, ← Render.renderEnum_push_logged, ← hstack] at hontop
    exact hontop

end SchemaGo.Generate
