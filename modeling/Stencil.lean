import Stencil.Cli
import Stencil.Main
import Stencil.Bind.Basic
import Stencil.Bind.Condition
import Stencil.Bind.Directive
import Stencil.Catalog
import Stencil.Component
import Stencil.Config
import Stencil.Context
import Stencil.Data.Keyed
import Stencil.Decimal.Layout
import Stencil.Decimal.Nearest
import Stencil.Decimal.Shortest
import Stencil.Engine
import Stencil.Error
import Stencil.Json.Basic
import Stencil.Json.Encode
import Stencil.Json.Read
import Stencil.Markup.Attribute
import Stencil.Markup.Entity
import Stencil.Markup.Fault
import Stencil.Markup.Raw
import Stencil.Markup.Read
import Stencil.Markup.Scan
import Stencil.Node.Basic
import Stencil.Node.Build
import Stencil.Node.Shape
import Stencil.Rendered
import Stencil.Router
import Stencil.Text.Blank
import Stencil.Text.Printable
import Stencil.Text.Quoted
import Stencil.Value.Basic
import Stencil.Value.Integer
import Stencil.Value.Text
import Stencil.Yaml.Basic
import Stencil.Yaml.Token
import Stencil.Yaml.Scan
import Stencil.Yaml.Parse
import Stencil.Yaml.Read
import Stencil.Yaml.Decode
import Stencil.Proofs.Binding
import Stencil.Proofs.Directive
import Stencil.Proofs.Include
import Stencil.Proofs.Conditional
import Stencil.Proofs.Locality
import Stencil.Proofs.Build
import Stencil.Proofs.Table
import Stencil.Proofs.Memo
import Stencil.Proofs.Replay
import Stencil.Proofs.Keys
import Stencil.Proofs.Registry
import Stencil.Proofs.Substitution
import Stencil.Proofs.Spread
import Stencil.Proofs.Reading
import Stencil.Proofs.Iteration
import Stencil.Proofs.Integer
import Stencil.Proofs.Style
import Stencil.Proofs.Links
import Stencil.Proofs.References
