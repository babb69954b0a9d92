import SchemaGo.Generate.SourceFile
import SchemaGo.Model.ContextName
import SchemaGo.Model.Reachable
import SchemaGo.Render.Dependencies
import SchemaGo.Render.Enum
import SchemaGo.Render.Struct

/-! The generator: options and the presets of the caller, applied to single models and to whole
documents. A model that fails leaves the others alone. -/

namespace SchemaGo.Generate

open Model (Index ModelNode)
open Render (Dependencies EnumPreset Options Preset Recording RenderError Renderer Stack StructPreset)

/-- A rendered text and the dependencies recorded for it. -/
structure Output where
  text : String
  dependencies : List String
  deriving DecidableEq

/-- A rendered model with the names it is generated under. -/
structure OutputModel where
  id : String
  typeName : String
  fileName : String
  text : String
  dependencies : List String
  deriving DecidableEq

/-- The output of a model under its names. -/
def outputModel (m : ModelNode) (o : Output) : OutputModel :=
  let id := m.id.getD ""
  let type := typeName id
  ⟨id, type, fileName type, o.text, o.dependencies⟩

/-- Runs a rendering with no dependencies recorded before it. -/
def collect (run : ExceptT RenderError Recording String) : Except RenderError Output :=
  let (result, dependencies) := StateT.run run.run ({} : Dependencies)
  result.map fun text => ⟨text, dependencies.toList⟩

structure Generator where
  options : Options := {}
  presets : List (Preset Recording) := []

namespace Generator

def structStack (g : Generator) : Stack (StructPreset Recording) :=
  ⟨.default, g.presets.filterMap (·.structs)⟩

def enumStack (g : Generator) : Stack (EnumPreset Recording) :=
  ⟨.default, g.presets.filterMap (·.enums)⟩

def renderer (g : Generator) (x : Index) : Renderer :=
  ⟨g.options, x⟩

/-- Renders a model as a struct, its anonymous nested models named after the place of their use. -/
def renderStruct (g : Generator) (m : ModelNode) (x : Index) : Except RenderError Output :=
  collect (Render.renderStruct (g.renderer x) g.structStack (x.nameNested m))

/-- Renders a model as an enum. -/
def renderEnum (g : Generator) (m : ModelNode) (x : Index) : Except RenderError Output :=
  collect (Render.renderEnum (g.renderer x) g.enumStack (x.nameNested m))

/-- Renders a model by its kind. -/
def render (g : Generator) (m : ModelNode) (x : Index) : Except RenderError Output :=
  match m.kind with
  | .struct => g.renderStruct m x
  | .enum => g.renderEnum m x
  | .other => .error (.unsupportedModelKind (m.id.getD "<anonymous>") Model.ModelKind.other.name)

/-- Renders every model that is reachable in the index, nested ones named first. -/
def generate (g : Generator) (x : Index) : List (Except RenderError OutputModel) :=
  let x := x.withContextNames
  x.reachable.map fun m => (g.render m x).map (outputModel m)

/-- The output as a complete file of a package. -/
def complete (g : Generator) (package : String) (o : OutputModel) : OutputModel :=
  { o with text := sourceFile package g.options.indent o.dependencies o.text }

/-- Renders every reachable model as a complete file. -/
def generateFiles (g : Generator) (package : String) (x : Index) :
    List (Except RenderError OutputModel) :=
  (g.generate x).map (·.map (g.complete package))

end Generator

end SchemaGo.Generate
