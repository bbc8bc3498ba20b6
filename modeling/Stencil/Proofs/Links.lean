/-
Bound host elements and their attributes. Binding applies an element's directives to its
attributes and, for a host element that no override takes, keeps exactly those attributes, except
that a link `a` without a click handler whose `url` is a non-empty text off the site gets one
`onClick` handler, which navigates to that url (`Router.Linked`). This holds of every host element
that binding makes, at any depth: inside the fragments of `If`, `Data`, `Lang` and `Include`, and
inside included templates. What an override returns is its own and is not looked into; each such
output is the override applied to a host element of the sources with its directives applied
(`Binder.bind_elements_linked`).
-/
import Stencil.Proofs.Table

namespace Stencil

/-! ## The link rewrite -/

namespace Router

/-- A host element named `name` whose directives gave it `given` is a link to `url` off the site:
it is an `a` without a click handler, and its `url` is that text, non-empty and off the site. -/
def LinksOff (r : Router) (name : String) (given : Attributes) (url : String) : Prop :=
  name = "a" ∧ Keyed.get? given "onClick" = none ∧ Keyed.get? given "url" = some (.string url) ∧ url ≠ "" ∧
    r.isSameSite url = false

/-- The attributes `shown` of a bound host element whose directives gave it `given`: for a link off
the site, `given` with one `onClick` handler that navigates to the url; otherwise `given`. -/
def Linked (r : Router) (name : String) (given shown : Attributes) : Prop :=
  (∀ url, r.LinksOff name given url → ∃ n, shown = Keyed.insert given "onClick" (.handler ⟨n, .navigate url⟩)) ∧
    ((∀ url, ¬ r.LinksOff name given url) → shown = given)

end Router

/-- The link rewrite does what `Router.Linked` says. -/
theorem Binder.linkAttributes_linked (b : Binder) (name : String) (attrs : Attributes) (s : Session) :
    b.router.Linked name attrs ((b.linkAttributes name attrs).run s).1 := by
  unfold Binder.linkAttributes
  by_cases ha : (name == "a" && !Keyed.contains attrs "onClick") = true
  · have hname : name = "a" := by simpa using (Bool.and_eq_true_iff.1 ha).1
    have hclick : Keyed.get? attrs "onClick" = none := by
      simpa [Keyed.contains] using (Bool.and_eq_true_iff.1 ha).2
    rw [if_pos ha]
    split
    · next url hurl =>
      by_cases hoff : (url.isEmpty || b.router.isSameSite url) = true
      · -- an empty or same-site url is left alone
        rw [if_pos hoff]
        refine ⟨fun url' ⟨_, _, hurl', hne, hsame⟩ => ?_, fun _ => rfl⟩
        rw [hurl] at hurl'
        cases hurl'
        simp [String.isEmpty_iff, hne, hsame] at hoff
      · rw [if_neg hoff]
        have hoff' : url ≠ "" ∧ b.router.isSameSite url = false := by
          simpa [String.isEmpty_iff] using hoff
        refine ⟨fun url' ⟨_, _, hurl', _, _⟩ => ?_, fun h => absurd ⟨hname, hclick, hurl, hoff'⟩ (h url)⟩
        rw [hurl] at hurl'
        cases hurl'
        exact ⟨s.nextHandler, rfl⟩
    · next hurl =>
      refine ⟨fun url ⟨_, _, hurl', _, _⟩ => absurd hurl' (hurl url), fun _ => rfl⟩
  · rw [if_neg ha]
    refine ⟨fun url ⟨hname, hclick, _⟩ => absurd ha ?_, fun _ => rfl⟩
    simp [hname, Keyed.contains, hclick]

/-! ## Outputs and their bound elements -/

/-- Every element of an output that binding made satisfies `P`, outside the parts `O` marks as not
made by binding, which are not looked into. -/
inductive Rendered.BoundElements (O : Rendered → Prop) (P : String → Nat → Attributes → Prop) : Rendered → Prop
  | returned {r : Rendered} (h : O r) : BoundElements O P r
  | empty : BoundElements O P .empty
  | text (t : String) : BoundElements O P (.text t)
  | value (v : Value) : BoundElements O P (.value v)
  | component (name : String) (key : Nat) (attrs : Attributes) (children : List Node) :
      BoundElements O P (.component name key attrs children)
  | fragment {items : List Rendered} (inItems : ∀ r ∈ items, BoundElements O P r) :
      BoundElements O P (.fragment items)
  | element {name : String} {key : Nat} {attrs : Attributes} {children : List Rendered}
      (here : P name key attrs) (inChildren : ∀ r ∈ children, BoundElements O P r) :
      BoundElements O P (.element name key attrs children)

/-- Every template the library builds from a source has only elements that satisfy `P`. -/
def Library.TemplatesEverywhere (lib : Library) (P : Element → Prop) : Prop :=
  ∀ id markup m k, Keyed.get? lib.sources id = some markup → lib.builder.build markup = .ok m →
    ∀ x ∈ (m.run k).1, x.Everywhere P

namespace Binder

variable (b : Binder) (ctx : Context) (src : Element → Prop)

/-- The contexts binding against `ctx` works in: `ctx`, and the context of one item of a `Data`. -/
def BindsIn (c : Context) : Prop :=
  c = ctx ∨ (∃ v, c = Context.empty.insert "value" v) ∨ ∃ k v, c = (Context.empty.insert "name" (.string k)).insert "value" v

/-- An output that an override of `ctx` returns for a host element of the sources, handed that
element with its directives applied. -/
def Overridden (r : Rendered) : Prop :=
  ∃ e f, src e ∧ e.kind = .tag ∧ ctx.override? e.name = some f ∧
    r = f ⟨e.name, .tag, transformAttributes b.translation e.attributes ctx, e.children, e.key⟩

/-- A bound host element made from a host element of the sources, of its name and key, in a
context binding works in: its attributes are those the directives gave, linked. -/
def MadeFrom (name : String) (key : Nat) (attrs : Attributes) : Prop :=
  ∃ e c, src e ∧ e.kind = .tag ∧ e.name = name ∧ e.key = key ∧ BindsIn ctx c ∧
    b.router.Linked name (transformAttributes b.translation e.attributes c) attrs

theorem override?_of_bindsIn {c : Context} (hc : BindsIn ctx c) {name : String} {f : Element → Rendered}
    (hf : c.override? name = some f) : c = ctx := by
  rcases hc with rfl | ⟨v, rfl⟩ | ⟨k, v, rfl⟩
  · rfl
  · rw [Context.override?_insert Context.override?_empty] at hf
    cases hf
  · rw [Context.override?_insert (Context.override?_insert Context.override?_empty _ _)] at hf
    cases hf

end Binder

/-! ## Binding makes only linked elements -/

namespace Binder

variable (b : Binder) (ctx : Context) (src : Element → Prop)

/-- Every template the session holds was built from a source of the binder's library. -/
def RecordsAll (s : Session) : Prop := ∀ lib, b.library = some lib → lib.Records s

theorem bindNode_recordsAll {s : Session} (hs : b.RecordsAll s) (c : Context) (d : Nat) (x : Node) :
    b.RecordsAll ((b.bindNode c d x).run s).2 :=
  fun lib hlib => b.bindNode_records s hlib c d x (hs lib hlib)

theorem bindNodes_recordsAll {s : Session} (hs : b.RecordsAll s) (c : Context) (d : Nat) (ns : List Node) :
    b.RecordsAll ((b.bindNodes c d ns).run s).2 :=
  fun lib hlib => b.bindNodes_records s hlib c d ns (hs lib hlib)

/-- Binding nodes of the sources, in a context binding against `ctx` works in, from a session that
records only builds of the library's sources, gives outputs whose every bound element is made from
a host element of the sources, outside what overrides of `ctx` return. By the binder's own
induction: a host element no override takes is made with its children bound; every other kind
gives no element of its own, and wraps its children's outputs or an included template's, which
is a build of a source; `Data` binds in the contexts of its items, which have no overrides. -/
theorem bindNodes_boundElements (hlib : ∀ lib, b.library = some lib → lib.TemplatesEverywhere src) :
    ∀ c d ns s, BindsIn ctx c → b.RecordsAll s → (∀ x ∈ ns, x.Everywhere src) →
      ∀ r ∈ ((b.bindNodes c d ns).run s).1, r.BoundElements (b.Overridden ctx src) (b.MadeFrom ctx src) := by
  intro c d ns
  apply bindNodes.induct b
    (fun c d ns => ∀ s, BindsIn ctx c → b.RecordsAll s → (∀ x ∈ ns, x.Everywhere src) →
      ∀ r ∈ ((b.bindNodes c d ns).run s).1, r.BoundElements (b.Overridden ctx src) (b.MadeFrom ctx src))
    (fun c d x => ∀ s, BindsIn ctx c → b.RecordsAll s → x.Everywhere src →
      ((b.bindNode c d x).run s).1.BoundElements (b.Overridden ctx src) (b.MadeFrom ctx src))
    (fun children value d => ∀ s, b.RecordsAll s → (∀ x ∈ children, x.Everywhere src) →
      ((b.iterate children value d).run s).1.BoundElements (b.Overridden ctx src) (b.MadeFrom ctx src))
    (fun attrs children c d => ∀ s, BindsIn ctx c → b.RecordsAll s → (∀ x ∈ children, x.Everywhere src) →
      ((b.evaluateIf attrs children c d).run s).1.BoundElements (b.Overridden ctx src) (b.MadeFrom ctx src))
  · intro c d s _ _ _ r hr
    rw [bindNodes_nil_run] at hr
    exact absurd hr List.not_mem_nil
  · intro c d x xs ihx ihxs s hc hs hsrc r hr
    rw [bindNodes_cons_run, List.mem_cons] at hr
    rcases hr with rfl | hr
    · exact ihx s hc hs (hsrc x List.mem_cons_self)
    · exact ihxs _ hc (b.bindNode_recordsAll hs c d x) (fun y hy => hsrc y (List.mem_cons_of_mem _ hy)) r hr
  · intro c d t s _ _ _
    rw [bindNode_text_run]
    exact .text t
  · intro c d name attrs children key s _ _ _
    rw [bindNode_component_run]
    exact .component _ _ _ _
  · intro c d name attrs children key attributes ih s hc hs hsrc
    rw [bindNode_conditional_run]
    cases hsrc with
    | element _ hchildren => exact ih s hc hs hchildren
  · intro c d name attrs children key attributes ih s _ hs hsrc
    rw [bindNode_iteration_run]
    cases hsrc with
    | element _ hchildren => exact ih s hs hchildren
  -- `Include`: nothing, or the resolved template, a build of a source, in a fragment
  · intro c d name attrs children key attributes hid s _ _ _
    rw [bindNode_include_absent b c d s name attrs children key hid]
    exact .empty
  · intro c d name attrs children key attributes id hid hd hnolib s _ _ _
    rw [bindNode_include_nolibrary b c d s name attrs children key hnolib]
    exact .empty
  · intro c d name attrs children key attributes id hid hd lib hb ih s hc hs _
    rw [bindNode_include_run b c d s name attrs children key hb hid hd]
    split
    · next nodes s' hr =>
      obtain ⟨markup, m, k, hsrcs, hbuild, hrun⟩ := lib.resolve_built id s (hs lib hb) hr
      have hs' : b.RecordsAll s' := by
        intro lib' hb'
        rw [hb] at hb'
        cases hb'
        have := lib.resolve_records id s (hs lib hb)
        rwa [hr] at this
      exact .fragment (ih nodes s' hc hs' (hrun ▸ hlib lib hb id markup m k hsrcs hbuild))
    · exact .empty
  · intro c d name attrs children key attributes id hid hd s _ _ _
    rw [bindNode_include_deep b c d s name attrs children key (by omega)]
    exact .empty
  -- `Lang`: a text, or its children in a fragment
  · intro c d name attrs children key attributes k hk s _ _ _
    rw [bindNode_translation_text b c d s name attrs children key hk]
    exact .text _
  · intro c d name attrs children key attributes hk ih s hc hs hsrc
    rw [bindNode_translation_children b c d s name attrs children key hk]
    cases hsrc with
    | element _ hchildren => exact .fragment (ih s hc hs hchildren)
  -- host elements: an override's output, or the element made over its bound children
  · intro c d name attrs children key f hf s hc _ hsrc
    rw [bindNode_tag_override b c d s name attrs children key hf]
    -- only `ctx` itself has overrides
    have hctx := override?_of_bindsIn ctx hc hf
    subst hctx
    cases hsrc with
    | element hhere _ => exact .returned ⟨_, f, hhere, rfl, hf, rfl⟩
  · intro c d name attrs children key hf ih s hc hs hsrc
    rw [bindNode_tag_plain b c d s name attrs children key hf]
    cases hsrc with
    | element hhere hchildren =>
      exact .element ⟨_, c, hhere, rfl, rfl, rfl, hc, b.linkAttributes_linked _ _ _⟩ (ih s hc hs hchildren)
  -- `Data` over a list, a map, or anything else, each item in a context of values alone
  · intro children d items he s _ _
    rw [iterate_list_run, if_pos he]
    exact .empty
  · intro children d items he ih s hs hsrc
    rw [iterate_list_run, if_neg he]
    refine .fragment (run_mapM_forall b.RecordsAll _ _ ?_ ?_ items s hs)
    · intro item s' hs'
      exact b.bindNodes_recordsAll hs' _ d children
    · intro item s' hs'
      exact .fragment (ih item s' (.inr (.inl ⟨item, rfl⟩)) hs' hsrc)
  · intro children d entries he s _ _
    rw [iterate_map_run, if_pos he]
    exact .empty
  · intro children d entries he ih s hs hsrc
    rw [iterate_map_run, if_neg he]
    refine .fragment (run_mapM_forall b.RecordsAll _ _ ?_ ?_ entries s hs)
    · intro entry s' hs'
      exact b.bindNodes_recordsAll hs' _ d children
    · rintro ⟨k, v⟩ s' hs'
      exact .fragment (ih k v s' (.inr (.inr ⟨k, v, rfl⟩)) hs' hsrc)
  · intro children other d v hc hl hm ih s hs hsrc
    rw [iterate_other_run b d s children other hl hm, if_neg (by simpa using hc)]
    exact .fragment (ih s (.inr (.inl ⟨v, rfl⟩)) hs hsrc)
  · intro children other d v hc hn hl hm s _ _
    rw [iterate_other_run b d s children other hl hm, if_pos (by simpa using hc), if_pos hn]
    exact .empty
  · intro children other d v hc hn hl hm s _ _
    rw [iterate_other_run b d s children other hl hm, if_pos (by simpa using hc), if_neg hn]
    exact .value _
  -- `If`: nothing, or its children in a fragment
  · intro attrs children c d subject ha s _ _ _
    rw [evaluateIf_run, if_neg (by simp [subject] at ha; simp [ha])]
    exact .empty
  · intro attrs children c d subject ha hcond ih s hc hs hsrc
    rw [evaluateIf_run, if_pos ⟨by simpa using ha, hcond⟩]
    exact .fragment (ih s hc hs hsrc)
  · intro attrs children c d subject ha hcond s _ _ _
    rw [evaluateIf_run, if_neg (fun h' => hcond h'.2)]
    exact .empty

end Binder

/-- Every host element that binding makes, at any depth, carries the attributes its directives gave
the host element of the sources it was made from, in the context it was bound in: the same
attributes, except that a link `a` without a click handler whose `url` is a non-empty text the
router places off the site gets one `onClick` handler, which navigates to that url, and no other
element gets one. What an override returns is not looked into. The sources are any elements that
include those of the bound nodes and of every template the library builds; the session holds
only builds of the library's sources, as every session that rendering reaches does. -/
theorem Binder.bind_elements_linked (b : Binder) (src : Element → Prop)
    (hlib : ∀ lib, b.library = some lib → lib.TemplatesEverywhere src) (ctx : Context) (s : Session)
    (hs : b.RecordsAll s) (ns : List Node) (hns : ∀ x ∈ ns, x.Everywhere src) :
    ∀ r ∈ ((b.bind ns ctx).run s).1, r.BoundElements (b.Overridden ctx src) (b.MadeFrom ctx src) :=
  b.bindNodes_boundElements ctx src hlib ctx 0 ns s (.inl rfl) hs hns

/-- A link off the site, bound by a binder of a host router and no templates, gets a handler that
navigates to its url. -/
theorem offSiteLink_binds_linked :
    (((⟨.host "https://app.example", ⟨.keys, defaultDomain⟩, none⟩ : Binder).bind
        [.element ⟨"a", .tag, [("url", .string "https://other.example/")], [], 1⟩] Context.empty).run
          Session.fresh).1 =
      [.element "a" 1 [("onClick", .handler ⟨0, .navigate "https://other.example/"⟩),
        ("url", .string "https://other.example/")] []] ∧
    (Rendered.element "a" 1 [("onClick", .handler ⟨0, .navigate "https://other.example/"⟩),
        ("url", .string "https://other.example/")] []).BoundElements
      (Binder.Overridden ⟨.host "https://app.example", ⟨.keys, defaultDomain⟩, none⟩ Context.empty fun _ => True)
      (Binder.MadeFrom ⟨.host "https://app.example", ⟨.keys, defaultDomain⟩, none⟩ Context.empty fun _ => True) := by
  have hrun : (((⟨.host "https://app.example", ⟨.keys, defaultDomain⟩, none⟩ : Binder).bind
      [.element ⟨"a", .tag, [("url", .string "https://other.example/")], [], 1⟩] Context.empty).run
        Session.fresh).1 =
      [.element "a" 1 [("onClick", .handler ⟨0, .navigate "https://other.example/"⟩),
        ("url", .string "https://other.example/")] []] := by
    have htransform : transformAttributes ⟨.keys, defaultDomain⟩ [("url", .string "https://other.example/")]
        Context.empty = [("url", .string "https://other.example/")] := rfl
    have hoff : Router.isSameSite (.host "https://app.example") "https://other.example/" = false :=
      String.startsWith_string_eq_false_iff.2 (by decide)
    have hlt : "onClick" < "url" := by decide
    rw [Binder.bind, Binder.bindNodes_cons_run, Binder.bindNode_tag_plain _ _ _ _ _ _ _ _ rfl]
    simp only [Binder.bindNodes_nil_run, htransform, Binder.linkAttributes, Keyed.contains, Keyed.get?]
    simp [hoff, Keyed.insert, hlt, Session.fresh]
    rfl
  refine ⟨hrun, Binder.bind_elements_linked _ (fun _ => True) (fun _ h => by cases h) Context.empty Session.fresh
    (fun _ h => by cases h) _ (fun x hx => ?_) _ (by rw [hrun]; exact List.mem_singleton_self _)⟩
  rw [List.mem_singleton] at hx
  subst hx
  exact .element trivial (fun c hc => absurd hc List.not_mem_nil)

end Stencil
