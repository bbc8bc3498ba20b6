/-
Components and the registry. A component is a fragment that a tag expands into: its kind,
default attributes and default children. Expanding it at a call site keeps the caller's key,
lays the caller's attributes over the defaults, and uses the caller's children, or a fresh copy
of the defaults when the caller has none. The registry maps type names to components; a name
must be a type name, and the last registration of a name wins.
-/
import Stencil.Node.Basic
namespace Stencil

/-- A fragment that a custom tag expands into. -/
structure Component where
  /-- the type name, also the tag it is called with -/
  name : String
  kind : Kind
  /-- default attributes, under the caller's -/
  attributes : Attributes
  /-- default children, used when the caller gives none -/
  children : List Node

/-- Whether a text is a type name: an ASCII letter, then ASCII letters, digits, `_` or `-`. -/
def isTypeName (s : String) : Bool :=
  match s.toList with
  | c :: cs => c.isAlpha && cs.all fun d => d.isAlphanum || d == '_' || d == '-'
  | [] => false

namespace Component

/-- A host component named `name`, without defaults. -/
def host (name : String) : Component := ⟨name, .component, [], []⟩

/-- The built-in components: `If`, `Data`, `Include` and `Lang`. -/
def builtins : List Component :=
  [⟨"If", .conditional, [], []⟩, ⟨"Data", .iteration, [], []⟩,
    ⟨"Include", .include, [], []⟩, ⟨"Lang", .translation, [], []⟩]

/-- The type name, if the name is one. -/
def typeName? (c : Component) : Option String := if isTypeName c.name then some c.name else none

/-- The component expanded at a call site. -/
def instantiate (c : Component) (caller : Element) : Minting Element := do
  let children ← if caller.children.isEmpty then rekeyed c.children else pure caller.children
  pure ⟨c.name, c.kind, Keyed.extend c.attributes caller.attributes, children, caller.key⟩

end Component

/-- Components by type name, in name order. -/
structure Registry where
  components : List (String × Component)

namespace Registry

/-- The registry without components. -/
def empty : Registry := ⟨[]⟩

/-- The registry of the built-in components. -/
def standard : Registry := ⟨Keyed.ofList (Component.builtins.map fun c => (c.name, c))⟩

/-- The component registered under `name`. -/
def get? (r : Registry) (name : String) : Option Component := Keyed.get? r.components name

/-- Whether a component is registered under `name`. -/
def has (r : Registry) (name : String) : Bool := (r.get? name).isSome

/-- The registered names in order. -/
def names (r : Registry) : List String := Keyed.keys r.components

/-- The number of registered components. -/
def size (r : Registry) : Nat := r.components.length

/-- The registry with `c` registered under its type name, or `none` when its name is no type
name. -/
def register? (r : Registry) (c : Component) : Option Registry :=
  c.typeName?.map fun n => ⟨Keyed.insert r.components n c⟩

end Registry

end Stencil
