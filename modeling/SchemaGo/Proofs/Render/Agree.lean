import Mathlib.Data.List.Forall2
import SchemaGo.Render.Enum
import SchemaGo.Render.Struct

/-! Presets that agree on a model. A rendering asks no hook about another model, so stacks of presets that
agree on its model render it alike, whatever their hooks do elsewhere. -/

namespace SchemaGo.Render

open Model (ModelNode)

variable {m : Type → Type} {n : ModelNode}

/-- The hooks are the same in every context of the model. -/
structure StructPreset.AgreeOn (n : ModelNode) (p q : StructPreset m) : Prop where
  self : ∀ c, c.model = n → p.self.map (· c) = q.self.map (· c)
  field : ∀ c, c.model = n → p.field.map (· c) = q.field.map (· c)
  additionalContent : ∀ c, c.model = n → p.additionalContent.map (· c) = q.additionalContent.map (· c)

/-- The hooks are the same in every context of the model. -/
structure EnumPreset.AgreeOn (n : ModelNode) (p q : EnumPreset m) : Prop where
  self : ∀ c, c.model = n → p.self.map (· c) = q.self.map (· c)
  item : ∀ c, c.model = n → p.item.map (· c) = q.item.map (· c)

/-- The parts are stages of the same stacks, with the same hooks for the model. -/
structure Preset.AgreeOn (n : ModelNode) (p q : Preset m) : Prop where
  structs : Option.Rel (StructPreset.AgreeOn n) p.structs q.structs
  enums : Option.Rel (EnumPreset.AgreeOn n) p.enums q.enums

theorem StructPreset.AgreeOn.refl (p : StructPreset m) : p.AgreeOn n p :=
  ⟨fun _ _ => rfl, fun _ _ => rfl, fun _ _ => rfl⟩

theorem EnumPreset.AgreeOn.refl (p : EnumPreset m) : p.AgreeOn n p :=
  ⟨fun _ _ => rfl, fun _ _ => rfl⟩

variable [Monad m]

/-- A hook that is the same in related presets runs through their stacks alike. -/
theorem Stack.run_congr {P : Type} {R : P → P → Prop} {presets presets' : Stack P}
    (h : List.Forall₂ R presets.stages presets'.stages) (hook : HookName) (model : String)
    {select : P → Option (Hook m)} (hselect : ∀ p q, R p q → select p = select q) (seed : String) :
    presets.run hook model select seed = presets'.run hook model select seed := by
  have hhooks : presets.stages.map select = presets'.stages.map select := by
    rw [← List.forall₂_eq_eq_eq, List.forall₂_map_left_iff, List.forall₂_map_right_iff]
    exact h.imp hselect
  rw [run, run, hhooks]

theorem renderStruct_congr {presets presets' : Stack (StructPreset m)}
    (h : List.Forall₂ (StructPreset.AgreeOn n) presets.stages presets'.stages) (r : Renderer) :
    renderStruct r presets n = renderStruct r presets' n := by
  unfold renderStruct
  refine bind_congr fun ⟨type, fields⟩ => ?_
  have hfield (field : Field) := Stack.run_congr h .field type (fun p q hpq => hpq.field ⟨n, r, field⟩ rfl) ""
  have hadditional := Stack.run_congr h .additionalContent type
    (fun p q hpq => hpq.additionalContent ⟨n, r, type⟩ rfl) ""
  have hself (seed : String) := Stack.run_congr h .self type (fun p q hpq => hpq.self ⟨n, r, type⟩ rfl) seed
  simp only [hfield, hadditional, hself]

theorem renderEnum_congr {presets presets' : Stack (EnumPreset m)}
    (h : List.Forall₂ (EnumPreset.AgreeOn n) presets.stages presets'.stages) (r : Renderer) :
    renderEnum r presets n = renderEnum r presets' n := by
  unfold renderEnum
  refine bind_congr fun ⟨type, constants⟩ => ?_
  have hitem (name : String) (value : Json.Value) (i : Nat) := Stack.run_congr h .item type
    (fun p q hpq => hpq.item ⟨n, r, type, backingType n, name, value, i⟩ rfl) ""
  have hself (items : List String) (seed : String) := Stack.run_congr h .self type
    (fun p q hpq => hpq.self ⟨n, r, type, backingType n, items⟩ rfl) seed
  simp only [hitem, hself]

end SchemaGo.Render
