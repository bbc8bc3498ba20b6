/-
The include depth law. Binding is total even when templates include themselves, directly or
through other templates: the binder recurses on the includes left before `maxIncludeDepth` and
then on the size of the nodes. An `Include` met under `d` includes renders its resolved template
bound under `d + 1` includes when `d < maxIncludeDepth`, and nothing, resolving nothing, at the
limit and past it. Every other kind, host elements included, binds its children under the same
count (`Binder.bindNode_same_depth`), so nodes without an `Include` bind alike under any count
(`Binder.bindNodes_include_free`). Templates that include one another in a cycle, each through
the same number `w` of `If`, `Data` and `Lang` wrappers, render exactly `maxIncludeDepth - d`
levels of `w + 1` fragments around nothing (`Binder.include_depth_limit`).
-/
import Stencil.Proofs.Binding
import Stencil.Proofs.Directive
import Stencil.Proofs.Build
import Stencil.Engine

namespace Stencil

/-! ## Nested fragments -/

/-- `n` fragments, each holding only the next, around `r`. -/
def Rendered.nest : Nat → Rendered → Rendered
  | 0, r => r
  | n + 1, r => .fragment [nest n r]

theorem Rendered.nest_add (m n : Nat) (r : Rendered) : nest m (nest n r) = nest (m + n) r := by
  induction m with
  | zero => simp [nest]
  | succ m ih => rw [Nat.succ_add, nest, ih]; rfl

/-! ## Includes inside wrappers -/

/-- The built element of `<Include templateId="id"/>`. -/
def includeOf (id : String) (key : Nat) : Node :=
  .element ⟨"Include", .include, [("templateId", .string id)], [], key⟩

theorem includeOf_templateId (tr : Translation) (ctx : Context) {id : String} (h : hasDirective id = false) :
    (Keyed.get? (transformAttributes tr [("templateId", .string id)] ctx) "templateId").bind Value.display =
      some id := by
  rw [transformAttributes_plain tr _ ctx (by simp [plainAttribute, h]; decide)]
  rfl

/-- A subject on which an `If` without an operator shows its children whatever the context: a
non-empty text holding no directive that is neither `undefined` nor `null`. -/
def literalSubject (t : String) : Bool :=
  !t.isEmpty && !isAbsentMarker (some (.string t)) && !hasDirective t

/-- `n` is an `Include` of `id` inside `w` wrappers, each holding only the next: a `Lang` without
a text, an `If` on a literal subject and no operator, a `Data` without a value. A host element
keeps the count as well, but renders itself rather than a fragment, so it is not a wrapper. -/
inductive Wraps (id : String) : Nat → Node → Prop
  | bare (key : Nat) : Wraps id 0 (includeOf id key)
  | lang {w : Nat} {n : Node} (name : String) (key : Nat) :
      Wraps id w n → Wraps id (w + 1) (.element ⟨name, .translation, [], [n], key⟩)
  | cond {w : Nat} {n : Node} (name subject : String) (key : Nat) (h : literalSubject subject = true) :
      Wraps id w n → Wraps id (w + 1) (.element ⟨name, .conditional, [("context", .string subject)], [n], key⟩)
  | data {w : Nat} {n : Node} (name : String) (key : Nat) :
      Wraps id w n → Wraps id (w + 1) (.element ⟨name, .iteration, [], [n], key⟩)

theorem transformAttributes_nil (tr : Translation) (ctx : Context) : transformAttributes tr [] ctx = [] :=
  transformAttributes_plain tr [] ctx (fun _ h => absurd h List.not_mem_nil)

/-- A wrapper binds its one child under the same includes, in a fragment: the wrapped `Include`
is bound from the same session, against the same context or, under a `Data`, another one. -/
theorem Wraps.bind {id : String} {w : Nat} {n : Node} (h : Wraps id w n) (b : Binder) :
    ∀ ctx d s, ∃ ctx' key, (b.bindNode ctx d n).run s =
      (Rendered.nest w ((b.bindNode ctx' d (includeOf id key)).run s).1,
        ((b.bindNode ctx' d (includeOf id key)).run s).2) := by
  induction h with
  | bare key => exact fun ctx _ _ => ⟨ctx, key, rfl⟩
  | lang name key _ ih =>
    intro ctx d s
    obtain ⟨ctx', key', h'⟩ := ih ctx d s
    refine ⟨ctx', key', ?_⟩
    have hnone : (Keyed.get? (transformAttributes b.translation [] ctx) "text").bind Value.display = none := by
      rw [transformAttributes_nil]; rfl
    rw [Binder.bindNode_translation_children b ctx d s name [] _ key hnone, Binder.bindNodes_cons_run,
      Binder.bindNodes_nil_run, h']
    rfl
  | cond name subject key hs _ ih =>
    intro ctx d s
    obtain ⟨ctx', key', h'⟩ := ih ctx d s
    refine ⟨ctx', key', ?_⟩
    simp only [literalSubject, Bool.and_eq_true, Bool.not_eq_true'] at hs
    obtain ⟨⟨hne, habs⟩, hdir⟩ := hs
    have hplain : transformAttributes b.translation [("context", .string subject)] ctx =
        [("context", .string subject)] :=
      transformAttributes_plain _ _ ctx (by simp [plainAttribute, hdir]; decide)
    have hholds : (Condition.ofAttributes [("context", .string subject)]).holds (.string subject) = true := by
      simpa [Condition.ofAttributes, Condition.operators, Keyed.get?, Condition.holds, Value.isTruthy] using hne
    rw [Binder.bindNode_conditional_run, hplain, Binder.evaluateIf_run, if_pos ⟨habs, hholds⟩,
      Binder.bindNodes_cons_run, Binder.bindNodes_nil_run, h']
    rfl
  | data name key _ ih =>
    intro ctx d s
    obtain ⟨ctx', key', h'⟩ := ih (Context.empty.insert "value" .null) d s
    refine ⟨ctx', key', ?_⟩
    rw [Binder.bindNode_iteration_run, transformAttributes_nil,
      Binder.iterate_other_run b d s _ _ (fun _ h => by simp [Keyed.get?] at h) (fun _ h => by simp [Keyed.get?] at h)]
    simp only [List.isEmpty_cons, Bool.false_eq_true, if_false]
    rw [Binder.bindNodes_cons_run, Binder.bindNodes_nil_run]
    simp only [Keyed.get?, Option.getD_none]
    rw [h']
    rfl

/-! ## The include count away from includes -/

theorem Binder.bindNodes_depth_congr (b : Binder) {d d' : Nat} :
    ∀ ns : List Node, (∀ x ∈ ns, ∀ ctx, b.bindNode ctx d x = b.bindNode ctx d' x) →
      ∀ ctx, b.bindNodes ctx d ns = b.bindNodes ctx d' ns
  | [], _, ctx => by rw [Binder.bindNodes, Binder.bindNodes]
  | x :: ns, h, ctx => by
    rw [Binder.bindNodes, Binder.bindNodes, h x List.mem_cons_self ctx,
      b.bindNodes_depth_congr ns (fun y hy => h y (List.mem_cons_of_mem x hy)) ctx]

/-- Every kind but `Include` binds its children under the includes it was met under, host
elements included: such an element renders alike under two counts where its children do. -/
theorem Binder.bindNode_same_depth (b : Binder) {d d' : Nat} {e : Element} (he : e.kind ≠ .include)
    (hchildren : ∀ c, b.bindNodes c d e.children = b.bindNodes c d' e.children) (ctx : Context) :
    b.bindNode ctx d (.element e) = b.bindNode ctx d' (.element e) := by
  obtain ⟨name, kind, attrs, children, key⟩ := e
  cases kind with
  | «include» => exact absurd rfl he
  | conditional =>
    rw [Binder.bindNode, Binder.bindNode, Binder.evaluateIf, Binder.evaluateIf, hchildren]
  | iteration =>
    -- every item is bound against its own context, which `hchildren` covers
    rw [Binder.bindNode, Binder.bindNode, Binder.iterate.eq_def, Binder.iterate.eq_def]
    simp only [hchildren]
  | component => rw [Binder.bindNode, Binder.bindNode]
  | tag | translation =>
    rw [Binder.bindNode, Binder.bindNode]
    simp only [hchildren]

/-- Nodes with no `Include` anywhere in them bind the same under any number of includes. -/
theorem Binder.bindNodes_include_free (b : Binder) (d d' : Nat) {ns : List Node}
    (h : ∀ x ∈ ns, x.Everywhere (·.kind ≠ .include)) (ctx : Context) :
    b.bindNodes ctx d ns = b.bindNodes ctx d' ns := by
  -- by induction on the derivation, which reaches every element of the tree
  have hnode : ∀ x : Node, x.Everywhere (·.kind ≠ .include) →
      ∀ ctx, b.bindNode ctx d x = b.bindNode ctx d' x := by
    intro x hx
    induction hx with
    | text t => intro ctx; rw [Binder.bindNode, Binder.bindNode]
    | element here _ ih => exact b.bindNode_same_depth here (b.bindNodes_depth_congr _ ih)
  exact b.bindNodes_depth_congr ns (fun x hx => hnode x (h x hx)) ctx

/-! ## Cycles of includes -/

/-- The templates of the ids `S` holds are each one `Include` of an id `S` holds, inside `w`
wrappers, whatever key building starts from; and no id `S` holds carries a directive. -/
def IncludeCycle (lib : Library) (S : String → Prop) (w : Nat) : Prop :=
  ∀ X, S X → hasDirective X = false ∧ ∃ markup m Y, S Y ∧ Keyed.get? lib.sources X = some markup ∧
    lib.builder.build markup = .ok m ∧ ∀ k, ∃ n, (m.run k).1 = [n] ∧ Wraps Y w n

/-- An `Include` of an id of a cycle, met under `d` includes, renders `maxIncludeDepth - d`
levels of `w + 1` fragments around nothing. By induction on the includes left: each level
resolves one template of the cycle, whose wrappers add `w` fragments and whose `Include` is
bound one include deeper. -/
theorem Binder.bindNode_include_cycle (b : Binder) {lib : Library} (hb : b.library = some lib)
    {S : String → Prop} {w : Nat} (hS : IncludeCycle lib S w) :
    ∀ left ctx d X key s, maxIncludeDepth - d = left → S X → lib.Records s →
      ((b.bindNode ctx d (includeOf X key)).run s).1 = Rendered.nest ((w + 1) * left) .empty := by
  intro left
  induction left with
  | zero =>
    intro ctx d X key s hleft _ _
    rw [includeOf, b.bindNode_include_deep ctx d s _ _ _ key (by omega)]
    rfl
  | succ left ih =>
    intro ctx d X key s hleft hX hs
    obtain ⟨hdir, markup, m, Y, hY, hsrc, hbuild, hm⟩ := hS X hX
    obtain ⟨k, s', hres, hs'⟩ := lib.resolve_of_source X s hs hsrc hbuild
    obtain ⟨n, hrun, hwraps⟩ := hm k
    rw [hrun] at hres
    have hid := includeOf_templateId b.translation ctx hdir
    rw [includeOf, b.bindNode_include_resolved ctx d s _ _ _ key hb hid (by omega) hres,
      Binder.bindNodes_cons_run, Binder.bindNodes_nil_run]
    obtain ⟨ctx', key', hwrap⟩ := hwraps.bind b ctx (d + 1) s'
    have hinner := ih ctx' (d + 1) Y key' s' (by omega) hY hs'
    rw [hwrap]
    simp only
    rw [hinner, Rendered.nest_add]
    have hcount : (w + 1) * (left + 1) = w + (w + 1) * left + 1 := by
      rw [Nat.mul_succ]; omega
    rw [hcount]
    rfl

/-- The include depth law of binding. At or past `maxIncludeDepth` includes an `Include` renders
nothing and leaves the session as it was; below it, an `Include` whose template resolves renders
that template bound one include deeper; and so templates that include one another in a cycle,
each through `w` wrappers (`Lang`, `If`, `Data`) that keep the include count, render exactly
`maxIncludeDepth - d` levels from `d` includes on. -/
theorem Binder.include_depth_limit (b : Binder) (lib : Library) (hb : b.library = some lib) :
    (∀ ctx d name attrs children key s, maxIncludeDepth ≤ d →
      (b.bindNode ctx d (.element ⟨name, .include, attrs, children, key⟩)).run s = (.empty, s)) ∧
    (∀ ctx d name attrs children key s id nodes s', d < maxIncludeDepth →
      (Keyed.get? (transformAttributes b.translation attrs ctx) "templateId").bind Value.display = some id →
      (lib.resolve id).run s = (.ok (some nodes), s') →
      (b.bindNode ctx d (.element ⟨name, .include, attrs, children, key⟩)).run s =
        (.fragment ((b.bindNodes ctx (d + 1) nodes).run s').1, ((b.bindNodes ctx (d + 1) nodes).run s').2)) ∧
    (∀ S w, IncludeCycle lib S w → ∀ ctx d X key s, S X → lib.Records s →
      ((b.bindNode ctx d (includeOf X key)).run s).1 = Rendered.nest ((w + 1) * (maxIncludeDepth - d)) .empty) :=
  ⟨fun ctx d name attrs children key s h => b.bindNode_include_deep ctx d s name attrs children key h,
    fun ctx d name attrs children key s _ _ _ h hid hr =>
      b.bindNode_include_resolved ctx d s name attrs children key hb hid h hr,
    fun _ _ hS ctx d X key s hX hs =>
      b.bindNode_include_cycle hb hS (maxIncludeDepth - d) ctx d X key s rfl hX hs⟩

/-! ## A template that includes itself -/

/-- The standard engine with one template, `/loop`, that includes itself. -/
def loopEngine : Engine := { Engine.standard with sources := [("/loop", "<Include templateId=\"/loop\"/>")] }

theorem loopEngine_parse :
    Markup.parse "<Include templateId=\"/loop\"/>" = .ok [⟨.tag, "Include", "", [("templateId", "/loop")], []⟩] := by
  with_unfolding_all rfl

theorem loopEngine_cycle : IncludeCycle loopEngine.library (· = "/loop") 0 := by
  rintro X rfl
  refine ⟨by decide, _, loopEngine.builder.buildNodes none [⟨.tag, "Include", "", [("templateId", "/loop")], []⟩],
    "/loop", rfl, rfl, ?_, fun k => ⟨includeOf "/loop" k, rfl, .bare k⟩⟩
  show (Markup.parse _).map _ = _
  rw [loopEngine_parse]
  rfl

/-- Binding `<Include templateId="/loop"/>`, where `/loop` is that same element, on a fresh
engine gives exactly sixteen fragments around nothing. -/
theorem loopEngine_binds_sixteen :
    ((loopEngine.binder.bindNode Context.empty 0 (includeOf "/loop" 1)).run Session.fresh).1 =
      Rendered.nest 16 .empty :=
  (Binder.include_depth_limit loopEngine.binder loopEngine.library rfl).2.2 (· = "/loop") 0 loopEngine_cycle
    Context.empty 0 "/loop" 1 Session.fresh rfl (loopEngine.library.records_fresh)

end Stencil
