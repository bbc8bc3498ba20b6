/-
Building templates: markup is read into raw nodes, each raw node is shaped, its children are
built, and an element whose name is registered is expanded into its component. Shaping keys an
element before its children are built, so keys run in document order, and a component
expansion keeps the caller's key.
-/
import Stencil.Node.Shape
import Stencil.Component
import Stencil.Markup.Read
namespace Stencil

open Markup

/-- What building needs: the components to expand and the translations of `@lang(key)`. -/
structure Builder where
  registry : Registry
  translator : Translator
  domain : String

namespace Builder

mutual
/-- The nodes built from a list of raw nodes standing in the raw element `parent`. -/
def buildNodes (b : Builder) (parent : Option String) : List RawNode → Minting (List Node)
  | [] => pure []
  | r :: rs => do
    let n ← b.buildNode parent r
    let ns ← b.buildNodes parent rs
    pure (match n with
      | some n => n :: ns
      | none => ns)

/-- The node built from one raw node, if it is not dropped. -/
def buildNode (b : Builder) (parent : Option String) : RawNode → Minting (Option Node)
  | ⟨kind, name, data, attributes, children⟩ => do
    match ← normalize b.translator b.domain ⟨kind, name, data, attributes, children⟩ parent with
    | none => pure none
    | some (.text t) => pure (some (.text t))
    | some (.element e) =>
      let built ← b.buildNodes (some name) children
      let e := { e with children := built }
      match b.registry.get? e.name with
      | some c => pure (some (.element (← c.instantiate e)))
      | none => pure (some (.element e))
end

/-- The template of a markup text, or the markup fault that stops reading it. Reading comes
first, so a fault mints no key. -/
def build (b : Builder) (source : String) : Except Fault (Minting (List Node)) :=
  (parse source).map (b.buildNodes none)

end Builder

end Stencil
