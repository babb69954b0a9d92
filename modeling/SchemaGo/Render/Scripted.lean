import SchemaGo.Json.Printer
import SchemaGo.Render.Dependencies
import SchemaGo.Render.Summary
import SchemaGo.Script.Step

/-! Presets whose hooks are lists of steps, with the variables that each hook offers to templates. -/

namespace SchemaGo.Render

open Model (ModelNode)
open Script (Step Variables)

def FieldOrigin.name : FieldOrigin → String
  | .property => "property"
  | .additional => "additional"
  | .pattern => "pattern"

/-- The variables of every hook. -/
def modelVariables (m : ModelNode) (r : Renderer) : Variables :=
  [("id", m.id.getD "<none>"), ("kind", m.kind.name), ("models", toString r.index.size),
    ("indent", r.options.indent.unit), ("typing", r.options.constantTyping.name)]

def StructContext.variables (c : StructContext) : Variables :=
  modelVariables c.model c.renderer ++ [("type_name", c.typeName)]

def FieldContext.variables (c : FieldContext) : Variables :=
  modelVariables c.model c.renderer ++
    [("field_name", c.field.key), ("field_type", c.field.origin.name),
      ("synthetic", boolText c.field.origin.isSynthetic), ("required", boolText c.isRequired),
      ("name", fieldName c.field.key), ("type", c.renderer.typeText c.field.node)]

def EnumContext.variables (c : EnumContext) : Variables :=
  modelVariables c.model c.renderer ++
    [("type_name", c.typeName), ("backing_type", c.backingType.text),
      ("items", "|".intercalate c.items)]

def ItemContext.variables (c : ItemContext) : Variables :=
  modelVariables c.model c.renderer ++
    [("type_name", c.typeName), ("backing_type", c.backingType.text),
      ("constant_name", c.constantName), ("value", c.value.text), ("index", toString c.index)]

/-- The hook of a list of steps on the variables of its context. -/
def scripted {C : Type} (offered : C → Variables) (steps : List Step) (c : C) : Hook Recording :=
  Script.run (fun name => discard (record name)) (offered c) steps

def StructPreset.ofSteps (self field additionalContent : Option (List Step)) :
    StructPreset Recording where
  self := self.map (scripted StructContext.variables)
  field := field.map (scripted FieldContext.variables)
  additionalContent := additionalContent.map (scripted StructContext.variables)

def EnumPreset.ofSteps (self item : Option (List Step)) : EnumPreset Recording where
  self := self.map (scripted EnumContext.variables)
  item := item.map (scripted ItemContext.variables)

end SchemaGo.Render
