/-
The engine: components, template sources, translations, a router and a default template,
with the rendering state they share. Rendering an id renders its template, or the default one
when the id has no source; a template is built the first time it is needed and then kept, so
later renders reuse its nodes and keys.
-/
import Stencil.Bind.Basic
namespace Stencil

/-- The id rendered when a requested id has no source. -/
def defaultTemplateId : String := "/index"

/-- A template engine and its state. -/
structure Engine where
  registry : Registry
  /-- markup by template id -/
  sources : List (String × String)
  translator : Translator
  domain : String
  router : Router
  defaultTemplateId : String
  session : Session

namespace Engine

/-- An engine with the built-in components and nothing else. -/
def standard : Engine :=
  ⟨Registry.standard, [], .keys, defaultDomain, .everywhere, Stencil.defaultTemplateId,
    Session.fresh⟩

/-- How the engine builds markup. -/
def builder (e : Engine) : Builder := ⟨e.registry, e.translator, e.domain⟩

/-- The engine's templates. -/
def library (e : Engine) : Library := ⟨e.sources, e.builder⟩

/-- How the engine binds. -/
def binder (e : Engine) : Binder := ⟨e.router, ⟨e.translator, e.domain⟩, some e.library⟩

/-- Runs a rendering computation on the engine's state. -/
def run {α : Type} (e : Engine) (m : Rendering α) : α × Engine :=
  let (a, s) := m.run e.session
  (a, { e with session := s })

/-- The engine with a component registered, or why it cannot be. -/
def register (e : Engine) (c : Component) : Except Error Engine :=
  match e.registry.register? c with
  | some r => .ok { e with registry := r }
  | none => .error (.invalidComponent c.name)

/-- Nodes built from markup, outside the template records. -/
def build (e : Engine) (source : String) : Except Error (List Node) × Engine :=
  match e.builder.build source with
  | .error f => (.error (.markup f), e)
  | .ok m =>
    let (nodes, e') := e.run (Rendering.mint m)
    (.ok nodes, e')

/-- The built template of an id, building and recording it when needed. -/
def resolve (e : Engine) (id : String) : Except Error (Option (List Node)) × Engine :=
  e.run (e.library.resolve id)

/-- Nodes bound against a context. -/
def bindNodes (e : Engine) (nodes : List Node) (ctx : Context) : List Rendered × Engine :=
  e.run (e.binder.bind nodes ctx)

/-- The template of an id bound against a context; `none` when the id has no source. -/
def bindTemplate (e : Engine) (id : String) (ctx : Context) :
    Except Error (Option (List Rendered)) × Engine :=
  e.run do
    match ← e.library.resolve id with
    | .ok (some nodes) => return .ok (some (← e.binder.bind nodes ctx))
    | .ok none => return .ok none
    | .error err => return .error err

/-- Inline children when given, else the template of `id`, else that of the fallback (the
engine's default when none is given), bound against a context. -/
def renderElement (e : Engine) (children : Option (List Node)) (id : Option String)
    (fallback : Option String) (ctx : Context) : Except Error (Option (List Rendered)) × Engine :=
  match children with
  | some nodes =>
    let (out, e') := e.bindNodes nodes ctx
    (.ok (some out), e')
  | none =>
    e.run do
      match ← e.library.resolveOr id (fallback.getD e.defaultTemplateId) with
      | .ok (some nodes) => return .ok (some (← e.binder.bind nodes ctx))
      | .ok none => return .ok none
      | .error err => return .error err

/-- The template of an id, or the default one, bound against a context. -/
def render (e : Engine) (id : String) (ctx : Context) : Except Error (List Rendered) × Engine :=
  match e.renderElement none (some id) none ctx with
  | (.ok (some out), e') => (.ok out, e')
  | (.ok none, e') => (.error (.unresolved id), e')
  | (.error err, e') => (.error err, e')

/-- Whether the template of an id has been built and recorded. -/
def isCached (e : Engine) (id : String) : Bool := Keyed.contains e.session.built id

/-- The number of recorded templates. -/
def cacheSize (e : Engine) : Nat := e.session.built.length

end Engine

end Stencil
