import SchemaGo.Proofs.Generate.Generator
import SchemaGo.Proofs.Render.Alike
import SchemaGo.Proofs.Render.Shape

/-! Fields or constants of one name. A model that has a type name is refused for them exactly if two have
one name. The error states the first name that occurred before, what has it and what had it first. The
presets have no part in that, since the names are compared before any hook, and behind that a rendering
fails through its hooks only. -/

namespace SchemaGo.Generate

open Model (Index ModelNode)
open Render (Call Dependencies Field FirstRepeat HookFailed Plan Recording RenderError Steps constantName
  content enumShape enumShape_alike enumShape_eq_ok_iff_namedApart firstRepeat? firstRepeat?_eq_none_iff
  firstRepeat?_eq_some_iff firstRepeat?_map modelTypeName steps_renderEnum steps_renderStruct
  structFields structShape structShape_alike structShape_eq_ok_iff_namedApart)

/-! ### The law of collisions -/

/-- How a rendering under a type name deals with items of one name, whatever the generator and the
index. -/
structure CollisionLaw {α : Type} (type : String) (items : List α) (name text : α → String)
    (collision : String → String → String → String → RenderError)
    (result : Generator → Index → Except RenderError Output) : Prop where
  /-- It is refused for a collision exactly if two items have one name. -/
  collides_iff : ∀ g x, (∃ model shared first second,
    result g x = .error (collision model shared first second)) ↔ ¬ (items.map name).Nodup
  /-- The item reported second is the first whose name occurred before. -/
  reported_iff : ∀ g x model shared first second,
    result g x = .error (collision model shared first second) ↔
      model = type ∧ ∃ a b, FirstRepeat name items a b ∧ shared = name b ∧ first = text a ∧ second = text b
  apart : ∀ g x output, result g x = .ok output → (items.map name).Nodup
  independent : ∀ g g' x x' model shared first second,
    result g x = .error (collision model shared first second) ↔
      result g' x' = .error (collision model shared first second)

section

variable {α : Type} {type : String} {items : List α} {name text : α → String}
  {collision : String → String → String → String → RenderError}
  {result : Generator → Index → Except RenderError Output}

/-- A rendering obeys the law if it is refused at the first repeated name, and if it does not end in a
collision where there is none. -/
theorem CollisionLaw.of_firstRepeat
    (refused : ∀ g x shared a b, firstRepeat? name items = some (shared, a, b) →
      result g x = .error (collision type shared (text a) (text b)))
    (rendered : ∀ g x, firstRepeat? name items = none → ∀ model shared first second,
      result g x ≠ .error (collision model shared first second))
    (injective : ∀ {model shared first second model' shared' first' second'},
      collision model shared first second = collision model' shared' first' second' →
        model = model' ∧ shared = shared' ∧ first = first' ∧ second = second') :
    CollisionLaw type items name text collision result := by
  have hreported : ∀ g x model shared first second,
      result g x = .error (collision model shared first second) ↔
        model = type ∧ ∃ a b, FirstRepeat name items a b ∧ shared = name b ∧ first = text a ∧
          second = text b := by
    intro g x model shared first second
    constructor
    · intro h
      cases hrepeat : firstRepeat? name items with
      | none => exact absurd h (rendered g x hrepeat model shared first second)
      | some found =>
        obtain ⟨shared', a, b⟩ := found
        obtain ⟨hfirst, rfl⟩ := firstRepeat?_eq_some_iff.1 hrepeat
        have hsame := h.symm.trans (refused g x _ a b hrepeat)
        obtain ⟨rfl, rfl, rfl, rfl⟩ := injective (Except.error.inj hsame)
        exact ⟨rfl, a, b, hfirst, rfl, rfl, rfl⟩
    · rintro ⟨rfl, a, b, hfirst, rfl, rfl, rfl⟩
      exact refused g x _ a b (firstRepeat?_eq_some_iff.2 ⟨hfirst, rfl⟩)
  have hcollides : ∀ g x, ¬ (items.map name).Nodup → ∃ model shared first second,
      result g x = .error (collision model shared first second) := by
    intro g x h
    cases hrepeat : firstRepeat? name items with
    | none => exact absurd ((firstRepeat?_eq_none_iff name items).1 hrepeat) h
    | some found => exact ⟨_, _, _, _, refused g x _ _ _ hrepeat⟩
  refine ⟨fun g x => ⟨?_, hcollides g x⟩, hreported, fun g x output h => ?_, ?_⟩
  · rintro ⟨model, shared, first, second, h⟩ hnodup
    exact rendered g x ((firstRepeat?_eq_none_iff name items).2 hnodup) _ _ _ _ h
  · by_contra hnodup
    obtain ⟨model, shared, first, second, h'⟩ := hcollides g x hnodup
    simp [h] at h'
  · intro g g' x x' model shared first second
    rw [hreported, hreported]

end

section

variable {S : Type} [DecidableEq S] {plan : Plan S} {type : String}
  {p : ExceptT RenderError Recording String}
  {q : ExceptT RenderError (StateM (Dependencies × List (Call S))) String}

/-- A rendering that goes through a plan fails through its hooks only. -/
theorem hookFailed_of_steps
    (h : Steps (content (plan.seed type)) (plan.failure type) plan.slots [] p q
      fun log text => content (plan.seed type) log plan.last = text)
    {e : RenderError} (herror : collect p = .error e) :
    HookFailed (.error e : Except RenderError String) := by
  obtain ⟨result, d, calls, htraces, hfollows⟩ := Plan.follows_of_steps h {}
  rw [collect_of_run htraces.plain] at herror
  rcases hfollows.ended with ⟨-, -, rfl⟩ | ⟨-, c, source, -, -, -, rfl⟩
  · cases herror
  · obtain rfl := Except.error.inj herror
    exact ⟨_, _, _, _, rfl⟩

end

/-! ### Structs and enums -/

section

variable {m : ModelNode} {type : String}

theorem structShape_of_named (named : modelTypeName m = .ok type) :
    structShape m = match firstRepeat? (fun f : Field => fieldName f.key) (structFields m) with
      | some (shared, first, second) => .error (.fieldNameCollision type shared first.key second.key)
      | none => .ok (type, structFields m) := by
  rw [structShape, named]
  rfl

/-- Two fields of one name are always refused, and nothing else is for such a reason. -/
theorem fieldCollisions (named : modelTypeName m = .ok type) :
    CollisionLaw type (structFields m) (fun f => fieldName f.key) Field.key .fieldNameCollision
      fun g x => g.renderStruct m x := by
  have hshape := structShape_of_named named
  refine .of_firstRepeat (fun g x shared a b hrepeat => ?_) (fun g x hrepeat => ?_) ?_
  · rw [hrepeat] at hshape
    refine collect_refused ?_ _
    rw [structShape_alike (ModelNode.alike_nested x m), hshape]
    rfl
  · rw [hrepeat] at hshape
    have hnested : structShape (x.nameNested m) = .ok (type, structFields (x.nameNested m)) := by
      rw [structShape_alike (ModelNode.alike_nested x m), hshape]
      rfl
    obtain ⟨hnamed, -⟩ := structShape_eq_ok_iff_namedApart.1 hnested
    intro model shared first second h
    have hfailed := hookFailed_of_steps (steps_renderStruct _ _ hnamed) h
    simp [HookFailed] at hfailed
  · intros
    simp_all

theorem enumShape_of_named (named : modelTypeName m = .ok type) :
    enumShape m = match firstRepeat? (constantName type) (m.enumValues.getD []) with
      | some (shared, first, second) => .error (.enumConstantCollision type shared first.text second.text)
      | none => .ok (type, (m.enumValues.getD []).map fun v => (constantName type v, v)) := by
  rw [enumShape, named]
  dsimp only [bind, Except.bind]
  rw [firstRepeat?_map]
  cases firstRepeat? (constantName type) (m.enumValues.getD []) <;> rfl

/-- Two constants of one name are always refused, and nothing else is for such a reason. -/
theorem constantCollisions (named : modelTypeName m = .ok type) :
    CollisionLaw type (m.enumValues.getD []) (constantName type) Json.Value.text .enumConstantCollision
      fun g x => g.renderEnum m x := by
  have hshape := enumShape_of_named named
  refine .of_firstRepeat (fun g x shared a b hrepeat => ?_) (fun g x hrepeat => ?_) ?_
  · rw [hrepeat] at hshape
    refine collect_refused ?_ _
    rw [enumShape_alike (ModelNode.alike_nested x m), hshape]
  · rw [hrepeat] at hshape
    have hnested := (enumShape_alike (ModelNode.alike_nested x m)).trans hshape
    obtain ⟨hnamed, -⟩ := enumShape_eq_ok_iff_namedApart.1 hnested
    intro model shared first second h
    have hfailed := hookFailed_of_steps (steps_renderEnum _ _ hnamed) h
    simp [HookFailed] at hfailed
  · intros
    simp_all

end

/-- Rendering a struct or an enum that has a type name obeys the law of collisions. -/
theorem collisions_exact {m : ModelNode} {type : String} (named : modelTypeName m = .ok type) :
    CollisionLaw type (structFields m) (fun f => fieldName f.key) Field.key .fieldNameCollision
      (fun g x => g.renderStruct m x) ∧
    CollisionLaw type (m.enumValues.getD []) (constantName type) Json.Value.text .enumConstantCollision
      fun g x => g.renderEnum m x :=
  ⟨fieldCollisions named, constantCollisions named⟩

/-- An object whose synthetic field has the name of a declared one. -/
def clash : ModelNode where
  id := some "clash"
  type := some (.single .object)
  properties := [("kept", {}), ("additional_properties", {})]
  additionalProperties := some {}

/-- An enum with two values that differ in a separator. -/
def casing : ModelNode where
  id := some "casing"
  enumValues := some [.string "a_b", .string "kept", .string "a-b"]

theorem collisions_exact_clash :
    modelTypeName clash = .ok "Clash" ∧
    Generator.renderStruct {} clash .empty = .error (.fieldNameCollision "Clash" "AdditionalProperties"
      "additional_properties" "additionalProperties") ∧
    modelTypeName casing = .ok "Casing" ∧
    Generator.renderEnum {} casing .empty =
      .error (.enumConstantCollision "Casing" "CasingAB" "\"a_b\"" "\"a-b\"") := by
  have hclash : modelTypeName clash = .ok "Clash" := by rfl
  have hcasing : modelTypeName casing = .ok "Casing" := by rfl
  have hfields : FirstRepeat (fun f : Field => fieldName f.key) (structFields clash)
      (structFields clash)[1] (structFields clash)[2] :=
    ⟨[(structFields clash)[0]], [], [], rfl, by decide +kernel, by decide +kernel⟩
  have hvalues : FirstRepeat (constantName "Casing") (casing.enumValues.getD [])
      (.string "a_b") (.string "a-b") :=
    ⟨[], [.string "kept"], [], rfl, by decide +kernel, by decide +kernel⟩
  refine ⟨hclash, ?_, hcasing, ?_⟩
  · exact ((collisions_exact hclash).1.reported_iff {} .empty _ _ _ _).2
      ⟨rfl, _, _, hfields, by decide +kernel, rfl, rfl⟩
  · exact ((collisions_exact hcasing).2.reported_iff {} .empty _ _ _ _).2
      ⟨rfl, _, _, hvalues, by decide +kernel, by decide +kernel, by decide +kernel⟩

end SchemaGo.Generate
