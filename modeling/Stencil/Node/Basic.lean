/-
Built template nodes. A node is text or an element; an element has a name, a kind that says
how binding treats it, attributes holding values, children and a key. Keys are minted from one
increasing counter, threaded as state (`Minting`): every element that building shapes gets the
next key, so keys are distinct and increase in the order elements are made.
-/
import Stencil.Value.Basic
namespace Stencil

/-- How binding treats an element. -/
inductive Kind where
  /-- a host element, or a custom tag nobody registered -/
  | tag
  /-- a registered host component, mounted by the host with its children unbound -/
  | component
  /-- `If`: children shown when a condition holds -/
  | conditional
  /-- `Data`: children repeated for every item of a value -/
  | iteration
  /-- `Include`: another template rendered in place -/
  | include
  /-- `Lang`: a translated text -/
  | translation
deriving Repr, DecidableEq, Inhabited

/-- The name of a kind as it is written in output. -/
def Kind.label : Kind → String
  | .tag => "tag"
  | .component => "component"
  | .conditional => "conditional"
  | .iteration => "iteration"
  | .include => "include"
  | .translation => "translation"

/-- Attributes: values by name, in name order. -/
abbrev Attributes := List (String × Value)

mutual
/-- An element of a built template. -/
structure Element where
  name : String
  kind : Kind
  attributes : Attributes
  children : List Node
  key : Nat

/-- A node of a built template. -/
inductive Node where
  | text (s : String)
  | element (e : Element)
end

instance : Inhabited Element := ⟨⟨"", .tag, [], [], 0⟩⟩

instance : Inhabited Node := ⟨.text ""⟩

/-- Computations that mint element keys; the state is the next key. -/
abbrev Minting := StateM Nat

/-- The next key. -/
def mintKey : Minting Nat := modifyGet fun n => (n, n + 1)

namespace Element

/-- A fresh element of kind `tag` with no attributes or children. -/
def new (name : String) : Minting Element := do
  let key ← mintKey
  pure ⟨name, .tag, [], [], key⟩

/-- The value of an attribute. -/
def attribute? (e : Element) (name : String) : Option Value := Keyed.get? e.attributes name

/-- The element with an attribute set. -/
def withAttribute (e : Element) (name : String) (v : Value) : Element :=
  { e with attributes := Keyed.insert e.attributes name v }

end Element

mutual
/-- A copy of nodes with a fresh key on every element; an element's children are copied before
it gets its own key. -/
def rekeyed : List Node → Minting (List Node)
  | [] => pure []
  | n :: ns => do
    let n' ← rekeyedNode n
    let ns' ← rekeyed ns
    pure (n' :: ns')

/-- A copy of one node with fresh keys. -/
def rekeyedNode : Node → Minting Node
  | .text s => pure (.text s)
  | .element ⟨name, kind, attributes, children, _⟩ => do
    let children' ← rekeyed children
    let key ← mintKey
    pure (.element ⟨name, kind, attributes, children', key⟩)
end

mutual
/-- Every text run of the nodes, depth-first in document order. -/
def textRuns : List Node → List String
  | [] => []
  | n :: ns => textRunsNode n ++ textRuns ns

/-- The text runs of one node. -/
def textRunsNode : Node → List String
  | .text s => [s]
  | .element ⟨_, _, _, children, _⟩ => textRuns children
end

/-- The element of a node, if it is one. -/
def Node.element? : Node → Option Element
  | .element e => some e
  | .text _ => none

end Stencil
