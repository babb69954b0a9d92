/-! The ways in which rendering one model fails, with their messages, codes and advice. -/

namespace SchemaGo.Render

/-- The decisions of rendering that presets take part in. -/
inductive HookName where
  /-- The whole declaration. -/
  | self
  /-- One field of a struct. -/
  | field
  /-- What follows the fields of a struct. -/
  | additionalContent
  /-- One constant of an enum. -/
  | item
  deriving DecidableEq

def HookName.name : HookName → String
  | .self => "self"
  | .field => "field"
  | .additionalContent => "additionalContent"
  | .item => "item"

inductive RenderError where
  | unnameableModel (identifier : Option String)
  | fieldNameCollision (model name first second : String)
  | enumConstantCollision (model name first second : String)
  /-- The `stage` counts from the default preset, which is 0. -/
  | hookFailure (model : String) (hook : HookName) (stage : Nat) (source : String)
  | unsupportedModelKind (model kind : String)
  deriving DecidableEq

namespace RenderError

def message : RenderError → String
  | .unnameableModel (some id) => "cannot derive a type name for model '" ++ id ++ "'"
  | .unnameableModel none => "cannot derive a type name for model <anonymous>"
  | .fieldNameCollision model name first second =>
    "fields '" ++ first ++ "' and '" ++ second ++ "' of model '" ++ model ++ "' both render as '"
      ++ name ++ "'"
  | .enumConstantCollision model name first second =>
    "values " ++ first ++ " and " ++ second ++ " of enum '" ++ model
      ++ "' both render as constant '" ++ name ++ "'"
  | .hookFailure model hook stage _ =>
    "'" ++ hook.name ++ "' hook of preset " ++ toString stage ++ " failed while rendering '"
      ++ model ++ "'"
  | .unsupportedModelKind model kind =>
    "model '" ++ model ++ "' is neither a struct nor an enum (" ++ kind ++ ")"

def code : RenderError → String
  | .unnameableModel _ => "sapling::unnameable_model"
  | .fieldNameCollision .. => "sapling::field_name_collision"
  | .enumConstantCollision .. => "sapling::enum_constant_collision"
  | .hookFailure .. => "sapling::hook_failure"
  | .unsupportedModelKind .. => "sapling::unsupported_model_kind"

def help? : RenderError → Option String
  | .unnameableModel _ => some "give the model an `$id` made of letters or digits"
  | .fieldNameCollision .. =>
    some "rename one of the properties, or drop the conflicting additional/pattern properties"
  | .enumConstantCollision .. => some "enum values must stay distinct after normalization"
  | .hookFailure .. => none
  | .unsupportedModelKind .. =>
    some "only object models and models with `enum` values are rendered"

end RenderError

end SchemaGo.Render
