/-
Rendered output: what binding hands to the host. Nothing, text, a bare value, a host element
with bound children, a host component with its children left unbound, or a fragment the host
flattens. The views: whether output is empty through its fragments, its elements in document
order, and its text content.
-/
import Stencil.Node.Basic
import Stencil.Value.Text
namespace Stencil

/-- Output of binding. -/
inductive Rendered where
  | empty
  | text (s : String)
  /-- a bare value, from `Data` without children -/
  | value (v : Value)
  | element (name : String) (key : Nat) (attributes : Attributes) (children : List Rendered)
  /-- a host component: children are handed over unbound -/
  | component (name : String) (key : Nat) (attributes : Attributes) (children : List Node)
  | fragment (items : List Rendered)

instance : Inhabited Rendered := ⟨.empty⟩

mutual
/-- Equality of nodes, values compared as values compare. -/
def Node.same : Node → Node → Bool
  | .text a, .text b => a == b
  | .element ⟨n, k, a, c, key⟩, .element ⟨n', k', a', c', key'⟩ =>
    n == n' && k == k' && Value.beqEntries a a' && Node.sameList c c' && key == key'
  | _, _ => false

/-- Equality of two lists of nodes, item by item. -/
def Node.sameList : List Node → List Node → Bool
  | [], [] => true
  | x :: xs, y :: ys => Node.same x y && Node.sameList xs ys
  | _, _ => false
end

namespace Rendered

mutual
/-- Whether nothing is rendered: `empty`, or a fragment of such. -/
def isEmpty : Rendered → Bool
  | .empty => true
  | .fragment items => allEmpty items
  | _ => false

/-- Whether every item renders nothing. -/
def allEmpty : List Rendered → Bool
  | [] => true
  | r :: rs => isEmpty r && allEmpty rs
end

mutual
/-- The elements in document order, looking through fragments but not into elements. -/
def elements : Rendered → List Rendered
  | .element n k a c => [.element n k a c]
  | .fragment items => elementsOf items
  | _ => []

/-- The elements of a list of outputs. -/
def elementsOf : List Rendered → List Rendered
  | [] => []
  | r :: rs => elements r ++ elementsOf rs
end

mutual
/-- Text and values written out, depth-first; components contribute nothing. -/
def textContent : Rendered → String
  | .empty | .component .. => ""
  | .text t => t
  | .value v => (v.display).getD ""
  | .element _ _ _ children => textContentOf children
  | .fragment items => textContentOf items

/-- The text content of a list of outputs, concatenated. -/
def textContentOf : List Rendered → String
  | [] => ""
  | r :: rs => textContent r ++ textContentOf rs
end

/-- The name of an element output. -/
def name? : Rendered → Option String
  | .element n .. => some n
  | _ => none

/-- An attribute of an element output. -/
def attribute? (r : Rendered) (name : String) : Option Value :=
  match r with
  | .element _ _ attributes _ => Keyed.get? attributes name
  | _ => none

mutual
/-- Equality of outputs: values as values compare (handlers by identity), nodes by their
structure with values compared the same way. -/
def same : Rendered → Rendered → Bool
  | .empty, .empty => true
  | .text a, .text b => a == b
  | .value a, .value b => a == b
  | .element n k a c, .element n' k' a' c' =>
    n == n' && k == k' && Value.beqEntries a a' && sameList c c'
  | .component n k a c, .component n' k' a' c' =>
    n == n' && k == k' && Value.beqEntries a a' && Node.sameList c c'
  | .fragment xs, .fragment ys => sameList xs ys
  | _, _ => false

/-- Equality of two lists of outputs, item by item. -/
def sameList : List Rendered → List Rendered → Bool
  | [], [] => true
  | x :: xs, y :: ys => same x y && sameList xs ys
  | _, _ => false
end

end Rendered

end Stencil
