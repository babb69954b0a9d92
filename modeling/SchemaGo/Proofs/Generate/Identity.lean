import SchemaGo.Proofs.Generate.Generator
import SchemaGo.Proofs.Render.Identity

/-! A preset whose hooks return what they receive and record nothing. Wherever it is put in among the
presets of a caller, a document is generated as without it, entry by entry. Only the failures of hooks
behind it name the next stage, and only for the models that it adds a stage for. -/

namespace SchemaGo

namespace Render.Preset

open Model (ModelKind)

variable {m : Type → Type}

/-- The hooks that there are return their content and have no effect. -/
structure IsIdentity [Monad m] (p : Preset m) : Prop where
  structs : ∀ q ∈ p.structs, q.IsIdentity
  enums : ∀ q ∈ p.enums, q.IsIdentity

/-- Whether a preset is a stage for models of a kind. -/
def addsStage (kind : ModelKind) (p : Preset m) : Bool :=
  match kind with
  | .struct => p.structs.isSome
  | .enum => p.enums.isSome
  | .other => false

/-- The number of stages for models of a kind, the default one and those of a caller's presets. -/
def stageCount (kind : ModelKind) (presets : List (Preset m)) : Nat :=
  presets.countP (addsStage kind) + 1

/-- The error of a model of a kind when `p` is put in behind some presets. -/
def errorBehind (p : Preset m) (before : List (Preset m)) (kind : ModelKind) (e : RenderError) :
    RenderError :=
  if p.addsStage kind then e.after (stageCount kind before) else e

theorem errorBehind_of_addsStage {p : Preset m} {kind : ModelKind} (h : p.addsStage kind)
    (before : List (Preset m)) :
    p.errorBehind before kind = RenderError.after (stageCount kind before) := by
  funext e
  rw [errorBehind, if_pos h]

theorem errorBehind_of_not_addsStage {p : Preset m} {kind : ModelKind} (h : ¬ p.addsStage kind)
    (before : List (Preset m)) : p.errorBehind before kind = fun e => e := by
  funext e
  rw [errorBehind, if_neg h]

end Render.Preset

namespace Generate

open Model (Index ModelNode)
open Render (Options Preset Recording RenderError)

theorem collect_adapt (f : RenderError → RenderError) (run : ExceptT RenderError Recording String) :
    collect (ExceptT.adapt f run) = (collect run).mapError f := by
  unfold collect
  rw [ExceptT.run_adapt, StateT.run_map]
  obtain ⟨result, dependencies⟩ : Except RenderError String × Render.Dependencies :=
    StateT.run run.run {}
  cases result <;> rfl

theorem mapError_self {α : Type} (result : Except RenderError α) : result.mapError (fun e => e) = result := by
  cases result <;> rfl

namespace Generator

section

variable {p : Preset Recording} (h : p.IsIdentity) (options : Options)
  (before later : List (Preset Recording))

include h

theorem renderStruct_insert (m : ModelNode) (x : Index) :
    renderStruct ⟨options, before ++ p :: later⟩ m x =
      (renderStruct ⟨options, before ++ later⟩ m x).mapError (p.errorBehind before .struct) := by
  unfold renderStruct structStack
  rw [List.filterMap_append, List.filterMap_append]
  cases hp : p.structs with
  | none =>
    have habsent : ¬ p.addsStage .struct := by simp [Preset.addsStage, hp]
    rw [List.filterMap_cons_none hp, Preset.errorBehind_of_not_addsStage habsent, mapError_self]
    rfl
  | some q =>
    have hpresent : p.addsStage .struct := by simp [Preset.addsStage, hp]
    rw [List.filterMap_cons_some hp, Render.renderStruct_insert (h.structs q hp), collect_adapt,
      Preset.errorBehind_of_addsStage hpresent, List.length_filterMap_eq_countP]
    rfl

theorem renderEnum_insert (m : ModelNode) (x : Index) :
    renderEnum ⟨options, before ++ p :: later⟩ m x =
      (renderEnum ⟨options, before ++ later⟩ m x).mapError (p.errorBehind before .enum) := by
  unfold renderEnum enumStack
  rw [List.filterMap_append, List.filterMap_append]
  cases hp : p.enums with
  | none =>
    have habsent : ¬ p.addsStage .enum := by simp [Preset.addsStage, hp]
    rw [List.filterMap_cons_none hp, Preset.errorBehind_of_not_addsStage habsent, mapError_self]
    rfl
  | some q =>
    have hpresent : p.addsStage .enum := by simp [Preset.addsStage, hp]
    rw [List.filterMap_cons_some hp, Render.renderEnum_insert (h.enums q hp), collect_adapt,
      Preset.errorBehind_of_addsStage hpresent, List.length_filterMap_eq_countP]
    rfl

/-- Every model is rendered as without the preset, apart from the stage that an error may name. -/
theorem render_insert (m : ModelNode) (x : Index) :
    render ⟨options, before ++ p :: later⟩ m x =
      (render ⟨options, before ++ later⟩ m x).mapError (p.errorBehind before m.kind) := by
  unfold render
  cases hkind : m.kind with
  | struct => exact renderStruct_insert h options before later m x
  | enum => exact renderEnum_insert h options before later m x
  | other => rfl

end

end Generator

/-- A preset that does nothing changes no entry of a document, wherever it is put in, except that the
hooks behind it fail at the next stage if it is a stage for their model. -/
theorem identity_inserted {p : Preset Recording} (h : p.IsIdentity) (options : Options)
    (before later : List (Preset Recording)) (x : Index) :
    Generator.generate ⟨options, before ++ p :: later⟩ x =
      (x.withContextNames.reachable.zip (Generator.generate ⟨options, before ++ later⟩ x)).map
        fun (m, result) => result.mapError (p.errorBehind before m.kind) := by
  rw [Generator.zip_generate, List.map_map]
  refine List.map_congr_left fun m _ => ?_
  rw [Generator.render_insert h, Function.comp_apply]
  cases Generator.render ⟨options, before ++ later⟩ m x.withContextNames <;> rfl

/-- All hooks for structs, and none for enums. -/
def passOn : Preset Recording where
  structs := some {
    self := some fun _ content => pure content
    field := some fun _ content => pure content
    additionalContent := some fun _ content => pure content }

/-- A hook that refuses every struct. -/
def refuse : Preset Recording where
  structs := some { self := some fun _ _ => throw "no" }

theorem isIdentity_passOn : passOn.IsIdentity := by
  refine ⟨?_, by simp [passOn]⟩
  rintro q ⟨⟩
  exact ⟨by rintro _ ⟨⟩ _ _; rfl, by rintro _ ⟨⟩ _ _; rfl, by rintro _ ⟨⟩ _ _; rfl⟩

def pets : Index :=
  .ofModels [{ id := some "pet", type := some (.single .object) }]

/-- The refusing hook stands one stage further behind a preset that does nothing. -/
theorem identity_inserted_passOn :
    passOn.IsIdentity ∧
      Generator.generate ⟨{}, [refuse]⟩ pets = [.error (.hookFailure "Pet" .self 1 "no")] ∧
      Generator.generate ⟨{}, [passOn, refuse]⟩ pets = [.error (.hookFailure "Pet" .self 2 "no")] := by
  have hrefused : Generator.generate ⟨{}, [refuse]⟩ pets = [.error (.hookFailure "Pet" .self 1 "no")] := by
    decide +kernel
  refine ⟨isIdentity_passOn, hrefused, ?_⟩
  have hinserted := identity_inserted isIdentity_passOn {} [] [refuse] pets
  rw [List.nil_append, List.nil_append, hrefused] at hinserted
  rw [hinserted]
  decide +kernel

end Generate

end SchemaGo
