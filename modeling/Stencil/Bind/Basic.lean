/-
Binding built templates against a context. Every element has its directives applied, then:
a component is handed over with its children unbound; `If` shows its children when its
condition holds; `Data` repeats its children once per item, each time against a context of
that item alone; `Include` renders another template in place, at most `maxIncludeDepth`
includes deep; `Lang` becomes a translated text; a host element is bound with its children,
unless the context overrides its name, and a link to another site gets a click handler that
navigates through the router.

Binding mints no key, but an `Include` may build a template for the first time, which mints
keys and records the template; rendering state (`Session`) carries the key counter, the
handler counter and the built templates.
-/
import Stencil.Bind.Directive
import Stencil.Bind.Condition
import Stencil.Node.Build
import Stencil.Router
import Stencil.Error
namespace Stencil

/-- Includes nest at most this deep; an `Include` found under this many renders nothing. -/
def maxIncludeDepth : Nat := 16

/-- What rendering changes: the next key, the next handler serial and the templates built so
far, by id in id order. -/
structure Session where
  nextKey : Nat
  nextHandler : Nat
  built : List (String × List Node)

/-- The state before anything is built: the first key is 1. -/
def Session.fresh : Session := ⟨1, 0, []⟩

instance : Inhabited Session := ⟨Session.fresh⟩

/-- Computations that render. -/
abbrev Rendering := StateM Session

/-- A key-minting computation run on the session's key counter. -/
def Rendering.mint {α : Type} (m : Minting α) : Rendering α := fun s =>
  let (a, k) := m.run s.nextKey
  (a, { s with nextKey := k })

/-- A fresh handler for an action. -/
def Rendering.handler (a : Action) : Rendering Handler := fun s =>
  (⟨s.nextHandler, a⟩, { s with nextHandler := s.nextHandler + 1 })

/-- Template sources by id, and how templates are built from them. -/
structure Library where
  sources : List (String × String)
  builder : Builder

/-- The built template of an id: the recorded one if it was built before; else, when the id
has a source, the template built from it, which is then recorded. `none` when the id has no
source. A template that fails to build is an error and is not recorded. -/
def Library.resolve (lib : Library) (id : String) : Rendering (Except Error (Option (List Node))) :=
  fun s =>
    match Keyed.get? s.built id with
    | some t => (.ok (some t), s)
    | none =>
      match Keyed.get? lib.sources id with
      | none => (.ok none, s)
      | some markup =>
        match lib.builder.build markup with
        | .error f => (.error (.templateMarkup id f), s)
        | .ok m =>
          let (t, k) := m.run s.nextKey
          (.ok (some t), { s with nextKey := k, built := Keyed.insert s.built id t })

/-- The built template of `id` when it has a source, else that of `fallback`. An error of the
first is not passed over. -/
def Library.resolveOr (lib : Library) (id : Option String) (fallback : String) :
    Rendering (Except Error (Option (List Node))) := do
  match id with
  | some i =>
    match ← lib.resolve i with
    | .ok none => lib.resolve fallback
    | r => pure r
  | none => lib.resolve fallback

/-- What binding needs besides the context. -/
structure Binder where
  router : Router
  translation : Translation
  /-- where `Include` finds templates; without one, includes render nothing -/
  library : Option Library

/-- A binder with no router, no translations and no templates. -/
def Binder.plain : Binder := ⟨.everywhere, ⟨.keys, defaultDomain⟩, none⟩

/-- The attributes of a bound host element: a link named `a` without a click handler whose
`url` is a non-empty text off the site gets a handler that navigates to it. -/
def Binder.linkAttributes (b : Binder) (name : String) (attrs : Attributes) : Rendering Attributes :=
  if name == "a" && !(Keyed.contains attrs "onClick") then
    match Keyed.get? attrs "url" with
    | some (.string url) =>
      if url.isEmpty || b.router.isSameSite url then pure attrs
      else do
        let h ← Rendering.handler (.navigate url)
        pure (Keyed.insert attrs "onClick" (.handler h))
    | _ => pure attrs
  else pure attrs

mutual
/-- The outputs of a list of nodes, under `depth` includes. -/
def Binder.bindNodes (b : Binder) (ctx : Context) (depth : Nat) :
    List Node → Rendering (List Rendered)
  | [] => pure []
  | n :: ns => do
    let r ← b.bindNode ctx depth n
    let rs ← b.bindNodes ctx depth ns
    pure (r :: rs)
termination_by ns => (maxIncludeDepth - depth, sizeOf ns)

/-- The output of one node, under `depth` includes. -/
def Binder.bindNode (b : Binder) (ctx : Context) (depth : Nat) : Node → Rendering Rendered
  | .text s => pure (.text s)
  | .element ⟨name, kind, attrs, children, key⟩ => do
    let attributes := transformAttributes b.translation attrs ctx
    match kind with
    | .component => pure (.component name key attributes children)
    | .conditional => b.evaluateIf attributes children ctx depth
    | .iteration => b.iterate children (Keyed.get? attributes "value") depth
    | .include =>
      match (Keyed.get? attributes "templateId").bind Value.display with
      | none => pure .empty
      | some id =>
        if _h : depth < maxIncludeDepth then
          match b.library with
          | none => pure .empty
          | some lib => do
            match ← lib.resolve id with
            | .ok (some nodes) => return .fragment (← b.bindNodes ctx (depth + 1) nodes)
            | _ => pure .empty
        else pure .empty
    | .translation =>
      match (Keyed.get? attributes "text").bind Value.display with
      | some k => pure (.text (b.translation.translator.translate k b.translation.domain))
      | none => return .fragment (← b.bindNodes ctx depth children)
    | .tag =>
      match ctx.override? name with
      | some f => pure (f ⟨name, kind, attributes, children, key⟩)
      | none => do
        let bound ← b.bindNodes ctx depth children
        let attributes ← b.linkAttributes name attributes
        pure (.element name key attributes bound)
termination_by n => (maxIncludeDepth - depth, sizeOf n)

/-- An `If` with these attributes: nothing when its `context` is absent or fails the
condition, else its children bound against the whole context. -/
def Binder.evaluateIf (b : Binder) (attributes : Attributes) (children : List Node)
    (ctx : Context) (depth : Nat) : Rendering Rendered := do
  let subject := Keyed.get? attributes "context"
  if isAbsentMarker subject then pure .empty
  else if (Condition.ofAttributes attributes).holds (subject.getD .null) then
    return .fragment (← b.bindNodes ctx depth children)
  else pure .empty
termination_by (maxIncludeDepth - depth, sizeOf children + 1)

/-- A `Data` over a value: for a list, the children once per item against a context holding
only that item as `value`; for a map, once per entry in key order with `name` and `value`;
for anything else, the children once with it as `value`, or, without children, the value
itself (nothing for null). A list or map without children renders nothing. -/
def Binder.iterate (b : Binder) (children : List Node) (value : Option Value) (depth : Nat) :
    Rendering Rendered :=
  match value with
  | some (.list items) =>
    if children.isEmpty then pure .empty
    else do
      return .fragment (← items.mapM fun item => do
        return .fragment (← b.bindNodes (Context.empty.insert "value" item) depth children))
  | some (.map entries) =>
    if children.isEmpty then pure .empty
    else do
      return .fragment (← entries.mapM fun (k, v) => do
        let itemCtx := (Context.empty.insert "name" (.string k)).insert "value" v
        return .fragment (← b.bindNodes itemCtx depth children))
  | _ =>
    let v := value.getD .null
    if !children.isEmpty then do
      return .fragment (← b.bindNodes (Context.empty.insert "value" v) depth children)
    else if v.isNull then pure .empty
    else pure (.value v)
termination_by (maxIncludeDepth - depth, sizeOf children + 1)
end

/-- The outputs of nodes bound against a context, outside any include. -/
def Binder.bind (b : Binder) (nodes : List Node) (ctx : Context) : Rendering (List Rendered) :=
  b.bindNodes ctx 0 nodes

end Stencil
