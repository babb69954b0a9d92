import SchemaGo.Proofs.Generate.Generator
import SchemaGo.Proofs.Render.Agree
import SchemaGo.Proofs.Render.Notes

/-! The dependencies of a model that is generated. They are the names that the hooks add while this model is
rendered, invocation by invocation as the plan has them, each once and in the order of first mention. What
hooks do for any other model is of no account. -/

namespace SchemaGo.Generate

open Model (Index ModelNode)
open Render (Call Dependencies EnumPreset EnumSite Hook Note Notes Options Plan Preset Recorder Recording
  RenderError Simulates Stack StructPreset StructSite accountOf accountOf_of_run enumPlan structPlan)

/-- The output of a rendering of the plan: `calls` is its account, and the notes tell what each call adds. -/
structure Recorded {S : Type} (plan : Plan S) (calls : List (Call S)) (notes : List (Note S))
    (dependencies : List String) : Prop where
  calls_eq : notes.map (·.call) = calls
  order : calls.map Call.slot = plan.slots
  dependencies_eq : dependencies = (notes.flatMap (·.added)).eraseDups
  nodup : dependencies.Nodup
  eq_nil_iff : dependencies = [] ↔ ∀ note ∈ notes, note.added = []

/-- A rendering that is simulated by one with an account, and that by one with notes. -/
theorem recorded_of_simulates {S : Type} {plan : Plan S} {size : Nat}
    {p : ExceptT RenderError Recording String}
    {q : ExceptT RenderError (StateM (Dependencies × List (Call S))) String}
    {noted : ExceptT RenderError (StateM (Dependencies × List (Note S))) String}
    (hcalls : Simulates (Render.Accounts size) p q) (hnotes : Simulates Notes q noted)
    (hslots : ∀ text d calls, q.run.run ({}, []) = (.ok text, d, calls) → calls.map Call.slot = plan.slots)
    {o : Output} (h : collect p = .ok o) :
    Recorded plan (accountOf q) (accountOf noted) o.dependencies := by
  obtain ⟨result, ⟨_, _⟩, ⟨d, notes⟩, hq, hnoted, rfl, rfl, hd⟩ := hnotes ({}, []) ({}, []) ⟨rfl, rfl, rfl⟩
  obtain ⟨result', d', ⟨_, _⟩, hp, hq', rfl, -⟩ := hcalls {} ({}, []) ⟨rfl, by simp⟩
  cases hq.symm.trans hq'
  rw [collect_of_run hp] at h
  cases result with
  | error e => cases h
  | ok text =>
    cases h
    rw [accountOf_of_run hq, accountOf_of_run hnoted]
    change d = (notes.flatMap (·.added)).foldl .add {} at hd
    refine ⟨rfl, hslots text d _ hq, ?_, ?_, ?_⟩
    · rw [← Render.Dependencies.toList_foldl_add_empty, ← hd]
    · rw [hd]
      exact Render.Dependencies.nodup_foldl_add List.nodup_nil _
    · rw [hd, Render.Dependencies.toList_foldl_add_eq_nil_iff, List.flatMap_eq_nil_iff]

namespace Generator

/-- The generator whose hooks record dependencies and have no other effect. -/
def ofRecorders (options : Options) (presets : List (Preset Recorder)) : Generator :=
  ⟨options, presets.map Preset.recording⟩

/-- The presets for structs, as stages. -/
def structRecorders (presets : List (Preset Recorder)) : Stack (StructPreset Recorder) :=
  ⟨.default, presets.filterMap (·.structs)⟩

/-- The presets for enums, as stages. -/
def enumRecorders (presets : List (Preset Recorder)) : Stack (EnumPreset Recorder) :=
  ⟨.default, presets.filterMap (·.enums)⟩

theorem structStack_ofRecorders (options : Options) (presets : List (Preset Recorder)) :
    (ofRecorders options presets).structStack =
      (structRecorders presets).mapStages fun _ => StructPreset.recording := by
  simp [ofRecorders, structStack, structRecorders, Stack.mapStages_const, List.filterMap_map,
    List.map_filterMap, Function.comp_def, Preset.recording]

theorem enumStack_ofRecorders (options : Options) (presets : List (Preset Recorder)) :
    (ofRecorders options presets).enumStack =
      (enumRecorders presets).mapStages fun _ => EnumPreset.recording := by
  simp [ofRecorders, enumStack, enumRecorders, Stack.mapStages_const, List.filterMap_map,
    List.map_filterMap, Function.comp_def, Preset.recording]

variable (options : Options) (presets : List (Preset Recorder)) (m : ModelNode) (x : Index)

/-- What each invocation of a hook adds while a model is rendered as a struct. -/
def structNotes : List (Note StructSite) :=
  accountOf (Render.renderStruct ⟨options, x⟩ ((structRecorders presets).mapStages StructPreset.noted)
    (x.nameNested m))

/-- What each invocation of a hook adds while a model is rendered as an enum. -/
def enumNotes : List (Note EnumSite) :=
  accountOf (Render.renderEnum ⟨options, x⟩ ((enumRecorders presets).mapStages EnumPreset.noted)
    (x.nameNested m))

theorem recorded_struct {o : Output} (h : (ofRecorders options presets).renderStruct m x = .ok o) :
    let g := ofRecorders options presets
    Recorded (structPlan (g.renderer x) g.structStack (x.nameNested m)) (g.structCalls m x)
      (structNotes options presets m x) o.dependencies := by
  intro g
  have hcalls := (Render.simulates_structRun_logged (g.renderer x) g.structStack (x.nameNested m)).map (·.2)
  have hnotes := (Render.simulates_structRun_noted (g.renderer x) (structRecorders presets)
    (x.nameNested m)).map (·.2)
  simp only [← Render.renderStruct_eq, ← structStack_ofRecorders options] at hcalls hnotes
  exact recorded_of_simulates hcalls hnotes (fun _ _ _ => Render.slots_of_renderStruct) h

theorem recorded_enum {o : Output} (h : (ofRecorders options presets).renderEnum m x = .ok o) :
    let g := ofRecorders options presets
    Recorded (enumPlan (g.renderer x) g.enumStack (x.nameNested m)) (g.enumCalls m x)
      (enumNotes options presets m x) o.dependencies := by
  intro g
  have hcalls := (Render.simulates_enumRun_logged (g.renderer x) g.enumStack (x.nameNested m)).map (·.2)
  have hnotes := (Render.simulates_enumRun_noted (g.renderer x) (enumRecorders presets)
    (x.nameNested m)).map (·.2)
  simp only [← Render.renderEnum_eq, ← enumStack_ofRecorders options] at hcalls hnotes
  exact recorded_of_simulates hcalls hnotes (fun _ _ _ => Render.slots_of_renderEnum) h

/-! ### Generators that agree on a model -/

variable {m x}

/-- Presets that agree on a model render it alike. -/
theorem render_congr {g g' : Generator} (hoptions : g'.options = g.options)
    (h : List.Forall₂ (Preset.AgreeOn (x.nameNested m)) g.presets g'.presets) :
    g'.render m x = g.render m x := by
  have hstructs : List.Forall₂ (StructPreset.AgreeOn (x.nameNested m)) g.structStack.stages
      g'.structStack.stages :=
    .cons (.refl _) (List.rel_filterMap (fun _ _ h => h.structs) h)
  have henums : List.Forall₂ (EnumPreset.AgreeOn (x.nameNested m)) g.enumStack.stages
      g'.enumStack.stages :=
    .cons (.refl _) (List.rel_filterMap (fun _ _ h => h.enums) h)
  simp only [render, renderStruct, renderEnum, renderer, hoptions, Render.renderStruct_congr hstructs,
    Render.renderEnum_congr henums]

end Generator

/-- The law of dependencies: what the hooks add while a model is rendered, each name once. -/
theorem dependencies_recorded (options : Options) (presets : List (Preset Recorder)) (x : Index) (i : Nat)
    (o : OutputModel) (h : ((Generator.ofRecorders options presets).generate x)[i]? = some (.ok o)) :
    let g := Generator.ofRecorders options presets
    let x' := x.withContextNames
    ∃ m, x'.reachable[i]? = some m ∧
      ((m.kind = .struct ∧ Recorded (structPlan (g.renderer x') g.structStack (x'.nameNested m))
          (g.structCalls m x') (Generator.structNotes options presets m x') o.dependencies) ∨
        (m.kind = .enum ∧ Recorded (enumPlan (g.renderer x') g.enumStack (x'.nameNested m))
          (g.enumCalls m x') (Generator.enumNotes options presets m x') o.dependencies)) ∧
      ∀ g' : Generator, g'.options = options →
        List.Forall₂ (Preset.AgreeOn (x'.nameNested m)) g.presets g'.presets →
          (g'.generate x)[i]? = some (.ok o) := by
  intro g x'
  rw [Generator.generate, List.getElem?_map, Option.map_eq_some_iff] at h
  obtain ⟨m, hm, hrender⟩ := h
  refine ⟨m, hm, ?_, fun g' hoptions hagree => ?_⟩
  · cases houtput : g.render m x' with
    | error e =>
      rw [houtput] at hrender
      cases hrender
    | ok output =>
      rw [houtput] at hrender
      cases hrender
      unfold Generator.render at houtput
      cases hkind : m.kind <;> rw [hkind] at houtput
      case struct => exact .inl ⟨rfl, Generator.recorded_struct options presets m x' houtput⟩
      case enum => exact .inr ⟨rfl, Generator.recorded_enum options presets m x' houtput⟩
      case other => cases houtput
  · rw [Generator.generate, List.getElem?_map, hm, Option.map_some,
      Generator.render_congr hoptions hagree, hrender]

/-- Adds names and returns the content. -/
def adding (names : List String) : Hook Recorder := fun content =>
  ExceptT.mk (names.foldr (fun name next => .add name fun _ => next) (.done (.ok content)))

/-- Every field adds one name, and the declaration another one and the same again. -/
def stamp : Preset Recorder where
  structs := some {
    self := some fun c _ => adding ["encoding/json", "time"] c.typeName
    field := some fun _ => adding ["time"] }

def orders : Index :=
  let text : ModelNode := { type := some (.single .string) }
  .ofModels
    [{ id := some "order", type := some (.single .object), properties := [("at", text), ("by", text)] }]

/-- The two fields and the declaration add four names, three of them the same. -/
theorem dependencies_recorded_stamp :
    ((Generator.ofRecorders {} [stamp]).generate orders)[0]? =
        some (.ok ⟨"order", "Order", "order.go", "Order", ["time", "encoding/json"]⟩) ∧
      ∃ m, orders.withContextNames.reachable[0]? = some m ∧
        ["time", "encoding/json"] =
          ((Generator.structNotes {} [stamp] m orders.withContextNames).flatMap (·.added)).eraseDups := by
  have hentry : ((Generator.ofRecorders {} [stamp]).generate orders)[0]? =
      some (.ok ⟨"order", "Order", "order.go", "Order", ["time", "encoding/json"]⟩) := by
    decide +kernel
  have hkind : orders.withContextNames.reachable[0]?.map (·.kind) = some .struct := by decide +kernel
  obtain ⟨m, hm, hrecorded, -⟩ := dependencies_recorded {} [stamp] orders 0 _ hentry
  rw [hm, Option.map_some, Option.some.injEq] at hkind
  rcases hrecorded with ⟨-, hstruct⟩ | ⟨henum, -⟩
  · exact ⟨hentry, m, hm, hstruct.dependencies_eq⟩
  · rw [hkind] at henum
    cases henum

end SchemaGo.Generate
