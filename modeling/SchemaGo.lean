import SchemaGo.Code.Builder
import SchemaGo.Code.Indent
import SchemaGo.Code.Program
import SchemaGo.Command.Basic
import SchemaGo.Command.Run
import SchemaGo.Command.Usage
import SchemaGo.Config
import SchemaGo.File.Disk
import SchemaGo.File.Path
import SchemaGo.File.Store
import SchemaGo.Generate.Generator
import SchemaGo.Generate.SourceFile
import SchemaGo.Json.Decoder
import SchemaGo.Json.Parser
import SchemaGo.Json.Printer
import SchemaGo.Json.Raw
import SchemaGo.Json.Value
import SchemaGo.Keyed
import SchemaGo.Main
import SchemaGo.Model.ContextName
import SchemaGo.Model.Decode
import SchemaGo.Model.Encode
import SchemaGo.Model.Index
import SchemaGo.Model.Node
import SchemaGo.Model.Reachable
import SchemaGo.Model.Type
import SchemaGo.Naming.Convention
import SchemaGo.Naming.Exported
import SchemaGo.Number.Basic
import SchemaGo.Number.Double
import SchemaGo.Number.Numeral
import SchemaGo.Number.Shortest
import SchemaGo.OrderedSet
import SchemaGo.Proofs.Generate.InlineModel
import SchemaGo.Proofs.Model.ContextName
import SchemaGo.Proofs.Model.Insertion
import SchemaGo.Proofs.Model.Reachable
import SchemaGo.Proofs.Model.Tree
import SchemaGo.Proofs.Type.Name
import SchemaGo.Render.Constant
import SchemaGo.Render.Dependencies
import SchemaGo.Render.Enum
import SchemaGo.Render.Error
import SchemaGo.Render.Hook
import SchemaGo.Render.Options
import SchemaGo.Render.Preset
import SchemaGo.Render.Renderer
import SchemaGo.Render.Scripted
import SchemaGo.Render.Struct
import SchemaGo.Render.Summary
import SchemaGo.Script.Step
import SchemaGo.Script.Template
import SchemaGo.Text.Basic
import SchemaGo.Text.CodeRun
import SchemaGo.Text.Letter
import SchemaGo.Text.Table.Alphanumeric
import SchemaGo.Text.Table.LowerMap
import SchemaGo.Text.Table.Lowercase
import SchemaGo.Text.Table.UpperMap
import SchemaGo.Text.Table.Uppercase
import SchemaGo.Text.Words
import SchemaGo.Toml.Item
import SchemaGo.Toml.Parser
import SchemaGo.Toml.Quoted
import SchemaGo.Toml.Scalar
import SchemaGo.Type.Expr
import SchemaGo.Type.OfNode
import SchemaGo.Proofs.Generate.Closed
import SchemaGo.Proofs.Naming.Exported
import SchemaGo.Proofs.Code.Builder
import SchemaGo.Proofs.Render.Plain
import SchemaGo.Proofs.Render.Struct
import SchemaGo.Proofs.Model.Settled
import SchemaGo.Proofs.Render.Alike
import SchemaGo.Proofs.Generate.Generator
import SchemaGo.Proofs.Generate.Direct
import SchemaGo.Proofs.Render.Shape
import SchemaGo.Proofs.Render.StructText
import SchemaGo.Proofs.Json.Printer
import SchemaGo.Proofs.Render.EnumText
import SchemaGo.Proofs.Render.Protocol
import SchemaGo.Proofs.File.Table
import SchemaGo.Proofs.Generate.Files
import SchemaGo.Proofs.Render.Identity
import SchemaGo.Proofs.Generate.Identity
import SchemaGo.Proofs.Render.Context
import SchemaGo.Proofs.Render.Simulation
import SchemaGo.Proofs.Render.Account
import SchemaGo.Proofs.Render.Recorder
import SchemaGo.Proofs.Generate.LastHook
import SchemaGo.Proofs.Render.Agree
import SchemaGo.Proofs.Render.Notes
import SchemaGo.Proofs.Generate.Dependencies
import SchemaGo.Proofs.Json.Numeral
import SchemaGo.Proofs.Json.Parser
import SchemaGo.Proofs.Json.Value
import SchemaGo.Proofs.Json.Decoder
import SchemaGo.Proofs.OrderedSet
import SchemaGo.Proofs.Model.RoundTrip
import SchemaGo.Proofs.Type.Text
import SchemaGo.Proofs.Type.Recursion
import SchemaGo.Proofs.Type.Transparent
import SchemaGo.Proofs.Text.Literal
import SchemaGo.Proofs.Generate.Tags
import SchemaGo.Proofs.Render.Literal
import SchemaGo.Proofs.Generate.Backing
import SchemaGo.Proofs.Model.FreeName
import SchemaGo.Proofs.Model.Place
import SchemaGo.Proofs.Model.OwnName
import SchemaGo.Proofs.Model.Order
import SchemaGo.Proofs.Generate.NamedOnce
import SchemaGo.Proofs.Generate.Order
import SchemaGo.Proofs.Command.Generate
import SchemaGo.Proofs.Generate.Collision
import SchemaGo.Proofs.Model.Undeclared
import SchemaGo.Proofs.Model.ContextPath
import SchemaGo.Proofs.Model.Listing
import SchemaGo.Proofs.Text.Words
import SchemaGo.Proofs.Naming.Escape
import SchemaGo.Proofs.Text.Category
import SchemaGo.Proofs.Naming.Identifier
import SchemaGo.Proofs.Render.ConstantName
import SchemaGo.Proofs.Text.Letter
import SchemaGo.Proofs.Text.Snake
import SchemaGo.Proofs.Naming.FileName
import SchemaGo.Proofs.File.Child
import SchemaGo.Proofs.Generate.Directory
import SchemaGo.Proofs.Type.Grammar
import SchemaGo.Proofs.Generate.SourceFile
import SchemaGo.Proofs.Render.Dropped
import SchemaGo.Proofs.Render.Extension
import SchemaGo.Proofs.Code.Program
