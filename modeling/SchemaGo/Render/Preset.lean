import SchemaGo.Json.Value
import SchemaGo.Render.Hook
import SchemaGo.Render.Renderer

/-! Presets: the hooks a caller adds on top of the default rendering, and what each of them is told.
For a struct the `field` hook runs once for each field, then `additionalContent`, then `self` with the
indented body. For an enum the `item` hook runs once for each value, then `self` with the
declaration. -/

namespace SchemaGo.Render

open Json (Value)
open Model (ModelNode)

/-- How a struct comes to have a field. -/
inductive FieldOrigin where
  /-- Declared in the model. -/
  | property
  /-- Collects the undeclared keys. -/
  | additional
  /-- Collects the keys that match a pattern. -/
  | pattern
  deriving DecidableEq

/-- Synthetic fields collect several keys in a dictionary. -/
def FieldOrigin.isSynthetic : FieldOrigin → Bool
  | .property => false
  | _ => true

structure Field where
  /-- The property key, or the name of a synthetic field. -/
  key : String
  node : ModelNode
  origin : FieldOrigin

structure StructContext where
  model : ModelNode
  renderer : Renderer
  typeName : String

structure FieldContext where
  model : ModelNode
  renderer : Renderer
  field : Field

/-- Only declared fields can be required. -/
def FieldContext.isRequired (c : FieldContext) : Bool :=
  c.field.origin = .property && c.model.isRequired c.field.key

structure EnumContext where
  model : ModelNode
  renderer : Renderer
  typeName : String
  backingType : TypeExpr
  /-- The results of the `item` hook, in the order of values. -/
  items : List String

structure ItemContext where
  model : ModelNode
  renderer : Renderer
  typeName : String
  backingType : TypeExpr
  constantName : String
  value : Value
  index : Nat

/-- The hooks for structs; one that is absent leaves contents as they are. -/
structure StructPreset (m : Type → Type) where
  self : Option (StructContext → Hook m) := none
  field : Option (FieldContext → Hook m) := none
  additionalContent : Option (StructContext → Hook m) := none

/-- The hooks for enums; one that is absent leaves contents as they are. -/
structure EnumPreset (m : Type → Type) where
  self : Option (EnumContext → Hook m) := none
  item : Option (ItemContext → Hook m) := none

/-- A caller's preset. A part that is absent adds no stage. -/
structure Preset (m : Type → Type) where
  structs : Option (StructPreset m) := none
  enums : Option (EnumPreset m) := none

end SchemaGo.Render
