/-
Binding contexts: the data one render pass binds against. A context maps names to values, or
to overrides that take over the binding of every host element of that name. Entries are in
name order and a later entry of a name replaces the earlier one, value or override.
-/
import Stencil.Rendered
namespace Stencil

/-- One entry of a context. -/
inductive Entry where
  | value (v : Value)
  /-- receives the element with its attributes bound and children unbound, and gives the
  output used in its place -/
  | override (f : Element → Rendered)

instance : Inhabited Entry := ⟨.value .null⟩

/-- Names bound to values and overrides, in name order. -/
structure Context where
  entries : List (String × Entry)

namespace Context

/-- The context without entries. -/
def empty : Context := ⟨[]⟩

/-- The context with `name` bound to a value. -/
def insert (c : Context) (name : String) (v : Value) : Context :=
  ⟨Keyed.insert c.entries name (.value v)⟩

/-- The context with an override for elements named `name`. -/
def insertOverride (c : Context) (name : String) (f : Element → Rendered) : Context :=
  ⟨Keyed.insert c.entries name (.override f)⟩

/-- The entry of a name. -/
def get? (c : Context) (name : String) : Option Entry := Keyed.get? c.entries name

/-- The value bound to a name; an override is no value. -/
def value? (c : Context) (name : String) : Option Value :=
  match c.get? name with
  | some (.value v) => some v
  | _ => none

/-- The override for elements of a name; a value is no override. -/
def override? (c : Context) (name : String) : Option (Element → Rendered) :=
  match c.get? name with
  | some (.override f) => some f
  | _ => none

/-- Whether the context has no entries. -/
def isEmpty (c : Context) : Bool := c.entries.isEmpty

/-- The number of entries. -/
def size (c : Context) : Nat := c.entries.length

/-- The context of a value: one entry per entry of a map, and no entry for anything else. -/
def ofValue : Value → Context
  | .map entries => ⟨entries.map fun (k, v) => (k, .value v)⟩
  | _ => empty

end Context

end Stencil
