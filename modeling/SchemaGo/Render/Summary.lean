import SchemaGo.Render.Preset

/-! Presets and options on one line each. -/

namespace SchemaGo.Render

def boolText (b : Bool) : String :=
  if b then "true" else "false"

variable {m : Type → Type}

def StructPreset.summary (p : StructPreset m) : String :=
  "StructPreset \x7b self: " ++ boolText p.self.isSome ++ ", field: " ++ boolText p.field.isSome
    ++ ", additional_content: " ++ boolText p.additionalContent.isSome ++ " \x7d"

def EnumPreset.summary (p : EnumPreset m) : String :=
  "EnumPreset \x7b self: " ++ boolText p.self.isSome ++ ", item: " ++ boolText p.item.isSome
    ++ " \x7d"

/-- The options and the number of presets that go with them. -/
def Options.summary (o : Options) (presets : Nat) : String :=
  let indent := match o.indent with
    | .tab => "Tab"
    | .spaces width => "Spaces(" ++ toString width ++ ")"
  let typing := match o.constantTyping with
    | .firstOnly => "FirstOnly"
    | .every => "Every"
  "GoOptions \x7b indent: " ++ indent ++ ", constant_typing: " ++ typing ++ ", presets: "
    ++ toString presets ++ " \x7d"

end SchemaGo.Render
