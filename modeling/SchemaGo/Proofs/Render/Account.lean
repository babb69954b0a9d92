import SchemaGo.Proofs.Render.Protocol
import SchemaGo.Proofs.Render.Simulation
import SchemaGo.Render.Dependencies

/-! Accounts of renderings. Under hooks that write their invocations down a rendering has the result and
the effect that it has without, and every invocation that is written down has a stage of the stack. -/

namespace SchemaGo.Render

open Model (ModelNode)

/-! ### Stacks stage by stage -/

namespace Stack

variable {P Q : Type}

theorem size_mapStages (f : Nat → P → Q) (s : Stack P) : (s.mapStages f).size = s.size := by
  simp [size, stages_mapStages]

theorem mapStages_push (f : Nat → P → Q) (s : Stack P) (p : P) :
    (s.push p).mapStages f = (s.mapStages f).push (f s.size p) := by
  simp [push, mapStages, size, stages, List.zipIdx_append, Nat.add_comm]

/-- Two stacks made of one are related if the presets are that they make of each stage. -/
theorem forall₂_mapStages {P' : Type} {R : Q → P' → Prop} {f : Nat → P → Q} {g : Nat → P → P'}
    (s : Stack P) (h : ∀ stage < s.size, ∀ p, R (f stage p) (g stage p)) :
    List.Forall₂ R (s.mapStages f).stages (s.mapStages g).stages := by
  rw [stages_mapStages, stages_mapStages, List.forall₂_map_left_iff, List.forall₂_map_right_iff,
    List.forall₂_same]
  rintro ⟨p, stage⟩ hp
  have hstage : stage < s.stages.length := by simpa using (List.mem_zipIdx hp).2.1
  exact h stage hstage p

theorem mapStages_mapStages {P' : Type} (f : Nat → P → Q) (g : Nat → Q → P') (s : Stack P) :
    (s.mapStages f).mapStages g = s.mapStages fun stage p => g stage (f stage p) := by
  simp only [mapStages, mk.injEq, true_and]
  refine List.ext_getElem (by simp) fun i _ _ => ?_
  simp

theorem mapStages_const (f : P → Q) (s : Stack P) :
    s.mapStages (fun _ => f) = ⟨f s.default, s.callers.map f⟩ := by
  have hcallers : (s.callers.zipIdx 1).map (fun p => f p.1) = s.callers.map f := by
    rw [← Function.comp_def, ← List.map_map, List.zipIdx_map_fst]
  exact congrArg (Stack.mk (f s.default)) hcallers

theorem mapStages_self (s : Stack P) : s.mapStages (fun _ p => p) = s := by
  simp [mapStages_const]

end Stack

/-! ### Calls -/

section

variable {S W : Type}

/-- What a rendering writes down, with no dependencies recorded before it. -/
def accountOf {A α : Type} (run : ExceptT RenderError (StateM (Dependencies × List A)) α) : List A :=
  (StateT.run run.run ({}, [])).2.2

theorem accountOf_of_run {A α : Type} {run : ExceptT RenderError (StateM (Dependencies × List A)) α}
    {result : Except RenderError α} {d : Dependencies} {log : List A}
    (h : run.run.run ({}, []) = (result, d, log)) : accountOf run = log := by
  rw [accountOf, h]

theorem accountOf_map {A α β : Type} (run : ExceptT RenderError (StateM (Dependencies × List A)) α)
    (f : α → β) : accountOf (f <$> run) = accountOf run := by
  obtain ⟨result, d, log, hrun⟩ : ∃ result d log, run.run.run ({}, []) = (result, d, log) :=
    ⟨_, _, _, rfl⟩
  rw [accountOf_of_run (run_map hrun f), accountOf_of_run hrun]

/-- A state without its account, all of whose calls have a stage below `size`. -/
def Accounts (size : Nat) (w : W) (account : W × List (Call S)) : Prop :=
  account.1 = w ∧ ∀ c ∈ account.2, c.stage < size

theorem run_logged (site : S) (stage : Nat) {hook : Hook (StateM W)} {content : String} {w w' : W}
    {returned : Except String String} (h : (hook content).run.run w = (returned, w'))
    (log : List (Call S)) :
    (Hook.logged site stage hook content).run.run (w, log) =
      (returned, w', log ++ [⟨site, stage, content, returned⟩]) := by
  exact congrArg (fun (p : Except String String × W) =>
    (p.1, p.2, log ++ [(⟨site, stage, content, p.1⟩ : Call S)])) h

theorem simulates_logged (site : S) {stage size : Nat} (h : stage < size) (hook : Hook (StateM W)) :
    Hook.Simulates (Accounts (S := S) size) hook (Hook.logged site stage hook) := by
  rintro content w ⟨w, log⟩ ⟨rfl, hlog⟩
  refine ⟨_, _, _, rfl, run_logged site stage rfl log, rfl, ?_⟩
  intro c hc
  rcases List.mem_append.1 hc with hc | hc
  · exact hlog c hc
  · rw [List.mem_singleton.1 hc]
    exact h

theorem contextHook_simulates_logged {C : Type} (site : C → S) {stage size : Nat} (h : stage < size)
    (hook : Option (C → Hook (StateM W))) :
    ContextHook.Simulates (Accounts (S := S) size) hook
      (hook.map fun hook c => Hook.logged (site c) stage (hook c)) := by
  cases hook with
  | none => exact .none
  | some hook => exact .some fun c => simulates_logged (site c) h (hook c)

theorem structPreset_simulates_logged {stage size : Nat} (h : stage < size)
    (p : StructPreset (StateM W)) : p.Simulates (Accounts size) (p.logged stage) where
  self := contextHook_simulates_logged (fun _ => StructSite.self) h p.self
  field := contextHook_simulates_logged (fun c : FieldContext => StructSite.field c.field.key) h p.field
  additionalContent :=
    contextHook_simulates_logged (fun _ => StructSite.additionalContent) h p.additionalContent

theorem enumPreset_simulates_logged {stage size : Nat} (h : stage < size)
    (p : EnumPreset (StateM W)) : p.Simulates (Accounts size) (p.logged stage) where
  self := contextHook_simulates_logged (fun _ => EnumSite.self) h p.self
  item := contextHook_simulates_logged (fun c : ItemContext => EnumSite.item c.index) h p.item

theorem simulates_structRun_logged (r : Renderer) (presets : Stack (StructPreset (StateM W)))
    (n : ModelNode) :
    Simulates (Accounts presets.size) (structRun r presets n)
      (structRun r (presets.mapStages StructPreset.logged) n) := by
  have hstages := presets.forall₂_mapStages (f := fun _ p => p) fun stage h p =>
    structPreset_simulates_logged h p
  rw [Stack.mapStages_self] at hstages
  exact simulates_structRun hstages r n

theorem simulates_enumRun_logged (r : Renderer) (presets : Stack (EnumPreset (StateM W)))
    (n : ModelNode) :
    Simulates (Accounts presets.size) (enumRun r presets n)
      (enumRun r (presets.mapStages EnumPreset.logged) n) := by
  have hstages := presets.forall₂_mapStages (f := fun _ p => p) fun stage h p =>
    enumPreset_simulates_logged h p
  rw [Stack.mapStages_self] at hstages
  exact simulates_enumRun hstages r n

/-! ### Renderings that succeed -/

/-- A run that succeeds has gone through its whole plan. -/
theorem Plan.slots_of_steps {S : Type} [DecidableEq S] {plan : Plan S} {type : String}
    {p : ExceptT RenderError (StateM W) String}
    {q : ExceptT RenderError (StateM (W × List (Call S))) String}
    (h : Steps (content (plan.seed type)) (plan.failure type) plan.slots [] p q
      fun log text => content (plan.seed type) log plan.last = text)
    {w w' : W} {text : String} {calls : List (Call S)}
    (hrun : q.run.run (w, []) = (.ok text, w', calls)) : calls.map Call.slot = plan.slots := by
  obtain ⟨result, w'', calls', htraces, hfollows⟩ := Plan.follows_of_steps h w
  have hsame : (result, w'', calls') = (.ok text, w', calls) := htraces.logged.symm.trans hrun
  cases hsame
  rcases hfollows.ended with ⟨hslots, -, -⟩ | ⟨before, c, source, -, -, -, hresult⟩
  · exact hslots
  · cases hresult

theorem slots_of_renderStruct {r : Renderer} {presets : Stack (StructPreset (StateM W))} {n : ModelNode}
    {w w' : W} {text : String} {calls : List (Call StructSite)}
    (h : (renderStruct r (presets.mapStages StructPreset.logged) n).run.run (w, []) =
      (.ok text, w', calls)) :
    calls.map Call.slot = (structPlan r presets n).slots := by
  cases hshape : structShape n with
  | error e =>
    simp only [renderStruct, hshape, liftExcept] at h
    cases h
  | ok shape =>
    obtain ⟨hnamed, -⟩ := structShape_eq_ok_iff_namedApart.1 hshape
    exact Plan.slots_of_steps (steps_renderStruct r presets hnamed) h

theorem slots_of_renderEnum {r : Renderer} {presets : Stack (EnumPreset (StateM W))} {n : ModelNode}
    {w w' : W} {text : String} {calls : List (Call EnumSite)}
    (h : (renderEnum r (presets.mapStages EnumPreset.logged) n).run.run (w, []) =
      (.ok text, w', calls)) :
    calls.map Call.slot = (enumPlan r presets n).slots := by
  cases hshape : enumShape n with
  | error e =>
    simp only [renderEnum, hshape, liftExcept] at h
    cases h
  | ok shape =>
    obtain ⟨hnamed, -⟩ := enumShape_eq_ok_iff_namedApart.1 hshape
    exact Plan.slots_of_steps (steps_renderEnum r presets hnamed) h

/-! ### A last hook for the declaration -/

theorem renderStruct_push_logged (r : Renderer) (presets : Stack (StructPreset (StateM W))) (n : ModelNode)
    (hook : StructContext → Hook (StateM W)) :
    renderStruct r ((presets.push { self := some hook }).mapStages StructPreset.logged) n =
      structRun r (presets.mapStages StructPreset.logged) n >>=
        declare presets.size (·.typeName) fun c => Hook.logged StructSite.self presets.size (hook c) := by
  rw [Stack.mapStages_push, ← presets.size_mapStages StructPreset.logged]
  exact renderStruct_push r _ n _

theorem renderEnum_push_logged (r : Renderer) (presets : Stack (EnumPreset (StateM W))) (n : ModelNode)
    (hook : EnumContext → Hook (StateM W)) :
    renderEnum r ((presets.push { self := some hook }).mapStages EnumPreset.logged) n =
      enumRun r (presets.mapStages EnumPreset.logged) n >>=
        declare presets.size (·.typeName) fun c => Hook.logged EnumSite.self presets.size (hook c) := by
  rw [Stack.mapStages_push, ← presets.size_mapStages EnumPreset.logged]
  exact renderEnum_push r _ n _

end

end SchemaGo.Render
