/-
Table containers (`table`, `tbody`, `thead`, `tfoot`, `tr`) hold elements only. Building keeps
this for text written directly in one: it is dropped. Binding keeps it for the output when every
table container, in the nodes bound and in the library's templates, holds only nodes that bind
into elements (`Node.HoldsInTable`: host elements, components, an `If` over such nodes, a `Data`
with children, all such nodes), and no override puts text or a value in place of an element:
then no rendered table container has text or a value among its children, looking through
fragments (`table_containers_text_rule`). A `Lang` renders text, an `Include` a template that
may start with text, a `Data` without children its value: a `Lang` without a text directly in a
table container puts the text it holds into the table (`Binder.bindNode_table_lang_loose`), so
`<table><Lang>x</Lang></table>` renders a table holding a fragment with the text `x`.
-/
import Stencil.Proofs.Binding
import Stencil.Proofs.Build
import Stencil.Engine

namespace Stencil

/-! ## Loose content in the output -/

namespace Rendered

mutual
/-- Whether output puts text or a value where it stands, looking through fragments. -/
def loose : Rendered → Bool
  | .text _ | .value _ => true
  | .fragment items => looseAny items
  | _ => false

/-- Whether one of the items puts text or a value where it stands. -/
def looseAny : List Rendered → Bool
  | [] => false
  | r :: rs => r.loose || looseAny rs
end

/-- No rendered table container has text or a value among its children, looking through
fragments; a component's children are not bound and are left to the host. -/
inductive TablesClean : Rendered → Prop
  | empty : TablesClean .empty
  | text (t : String) : TablesClean (.text t)
  | value (v : Value) : TablesClean (.value v)
  | element {name : String} {key : Nat} {attrs : Attributes} {children : List Rendered}
      (held : name ∈ tableContainers → ∀ r ∈ children, r.loose = false)
      (inChildren : ∀ r ∈ children, TablesClean r) : TablesClean (.element name key attrs children)
  | component (name : String) (key : Nat) (attrs : Attributes) (children : List Node) :
      TablesClean (.component name key attrs children)
  | fragment {items : List Rendered} (inItems : ∀ r ∈ items, TablesClean r) : TablesClean (.fragment items)

end Rendered

theorem Rendered.loose_fragment {items : List Rendered} (h : ∀ r ∈ items, r.loose = false) :
    (Rendered.fragment items).loose = false := by
  rw [Rendered.loose]
  induction items with
  | nil => rfl
  | cons r rs ih =>
    rw [Rendered.looseAny, h r List.mem_cons_self, ih (fun r' hr' => h r' (List.mem_cons_of_mem r hr'))]
    rfl

/-! ## What a table container may hold when it is bound -/

/-- The nodes that bind into elements in every context whose overrides give elements: a host
element, a component, an `If` over such nodes, and a `Data` with children, all such nodes. A
`Lang` renders a text, an `Include` a template that may start with one, and a `Data` without
children its value. -/
inductive Node.HoldsInTable : Node → Prop
  | tag (name : String) (attrs : Attributes) (children : List Node) (key : Nat) :
      HoldsInTable (.element ⟨name, .tag, attrs, children, key⟩)
  | component (name : String) (attrs : Attributes) (children : List Node) (key : Nat) :
      HoldsInTable (.element ⟨name, .component, attrs, children, key⟩)
  | conditional {name : String} {attrs : Attributes} {children : List Node} {key : Nat}
      (inChildren : ∀ c ∈ children, HoldsInTable c) :
      HoldsInTable (.element ⟨name, .conditional, attrs, children, key⟩)
  | iteration {name : String} {attrs : Attributes} {children : List Node} {key : Nat}
      (nonempty : children ≠ []) (inChildren : ∀ c ∈ children, HoldsInTable c) :
      HoldsInTable (.element ⟨name, .iteration, attrs, children, key⟩)

/-- A table container holds only nodes that bind into elements. -/
def Element.TableHeld (e : Element) : Prop :=
  e.name ∈ tableContainers → ∀ c ∈ e.children, c.HoldsInTable

/-- Every override of the context gives clean output that is not loose. -/
def Context.OverridesClean (c : Context) : Prop :=
  ∀ name f, c.override? name = some f → ∀ e, (f e).loose = false ∧ (f e).TablesClean

theorem Context.override?_insert {c : Context} (h : ∀ n, c.override? n = none) (k : String) (v : Value) :
    ∀ n, (c.insert k v).override? n = none := by
  intro n
  unfold Context.override? Context.get? Context.insert
  by_cases hn : n = k
  · subst hn
    rw [Keyed.get?_insert_self]
  · rw [Keyed.get?_insert_other _ _ _ _ hn]
    exact h n

theorem Context.override?_empty (n : String) : Context.empty.override? n = none := rfl

theorem Context.overridesClean_of_none {c : Context} (h : ∀ n, c.override? n = none) : c.OverridesClean :=
  fun name f hf => absurd (h name ▸ hf) (by simp)

/-- Contexts of values alone, such as those `Data` binds its children against, have no overrides. -/
theorem Context.insertClean (k : String) (v : Value) : (Context.empty.insert k v).OverridesClean :=
  Context.overridesClean_of_none (Context.override?_insert Context.override?_empty _ _)

theorem Context.entryClean (k : String) (v : Value) :
    ((Context.empty.insert "name" (.string k)).insert "value" v).OverridesClean :=
  Context.overridesClean_of_none (Context.override?_insert (Context.override?_insert Context.override?_empty _ _) _ _)

/-! ## Binding keeps table containers clean -/

namespace Binder

variable (b : Binder)

theorem bindNodes_not_loose {ctx : Context} {d : Nat} :
    ∀ ns : List Node, (∀ x ∈ ns, ∀ s, ((b.bindNode ctx d x).run s).1.loose = false) →
      ∀ s, ∀ r ∈ ((b.bindNodes ctx d ns).run s).1, r.loose = false
  | [], _, s, r, hr => by rw [bindNodes_nil_run] at hr; exact absurd hr List.not_mem_nil
  | x :: xs, h, s, r, hr => by
    rw [bindNodes_cons_run, List.mem_cons] at hr
    rcases hr with rfl | hr
    · exact h x List.mem_cons_self s
    · exact bindNodes_not_loose xs (fun y hy => h y (List.mem_cons_of_mem _ hy)) _ r hr

theorem iterate_not_loose {children : List Node} {d : Nat} (hne : children ≠ [])
    (hchildren : ∀ c : Context, c.OverridesClean → ∀ s, ∀ r ∈ ((b.bindNodes c d children).run s).1,
      r.loose = false)
    (value : Option Value) (s : Session) : ((b.iterate children value d).run s).1.loose = false := by
  have hempty : children.isEmpty = false := List.isEmpty_eq_false_iff.2 hne
  -- a list and a map give a fragment of one fragment per item; anything else one fragment
  by_cases hl : ∃ items, value = some (.list items)
  · obtain ⟨items, rfl⟩ := hl
    rw [iterate_list_run, hempty, if_neg Bool.false_ne_true]
    refine Rendered.loose_fragment (run_mapM_forall (fun _ => True) (fun r : Rendered => r.loose = false) _
      (fun _ _ _ => trivial) ?_ items s trivial)
    intro item s' _
    exact Rendered.loose_fragment (hchildren _ (Context.insertClean "value" item) s')
  by_cases hm : ∃ entries, value = some (.map entries)
  · obtain ⟨entries, rfl⟩ := hm
    rw [iterate_map_run, hempty, if_neg Bool.false_ne_true]
    refine Rendered.loose_fragment (run_mapM_forall (fun _ => True) (fun r : Rendered => r.loose = false) _
      (fun _ _ _ => trivial) ?_ entries s trivial)
    rintro ⟨k, v⟩ s' _
    exact Rendered.loose_fragment (hchildren _ (Context.entryClean k v) s')
  rw [iterate_other_run b d s children value (fun items h => hl ⟨items, h⟩)
    (fun entries h => hm ⟨entries, h⟩), hempty, if_neg Bool.false_ne_true]
  exact Rendered.loose_fragment (hchildren _ (Context.insertClean "value" _) s)

/-- A node that holds in a table binds into no text and no value, in every context whose
overrides are clean, under any includes, from any session. By induction on why it holds: `If`
and `Data` wrap their children's outputs in fragments, against their own context or contexts
of values alone. -/
theorem bindNode_held {x : Node} (hx : x.HoldsInTable) :
    ∀ ctx : Context, ctx.OverridesClean → ∀ d s, ((b.bindNode ctx d x).run s).1.loose = false := by
  induction hx with
  | tag name attrs children key =>
    intro ctx hov d s
    cases hf : ctx.override? name with
    | some f =>
      rw [bindNode_tag_override b ctx d s name attrs children key hf]
      exact (hov name f hf _).1
    | none =>
      rw [bindNode_tag_plain b ctx d s name attrs children key hf]
      rfl
  | component =>
    intro ctx _ d s
    rw [bindNode_component_run]
    rfl
  | conditional _ ih =>
    intro ctx hov d s
    rw [bindNode_conditional_run, evaluateIf_run]
    split
    · exact Rendered.loose_fragment (b.bindNodes_not_loose _ (fun x hx s => ih x hx ctx hov d s) s)
    · rfl
  | iteration hne _ ih =>
    intro ctx _ d s
    rw [bindNode_iteration_run]
    exact b.iterate_not_loose hne (fun c hc s => b.bindNodes_not_loose _ (fun x hx s => ih x hx c hc d s) s) _ s

theorem bindNodes_held {ctx : Context} (hov : ctx.OverridesClean) (d : Nat) (ns : List Node) (s : Session)
    (h : ∀ x ∈ ns, x.HoldsInTable) : ∀ r ∈ ((b.bindNodes ctx d ns).run s).1, r.loose = false :=
  b.bindNodes_not_loose ns (fun x hx s => b.bindNode_held (h x hx) ctx hov d s) s

variable {lib : Library}

/-- What the library can hand to an `Include`: every template built from a source keeps its table
containers held. -/
def TemplatesHeld (lib : Library) : Prop :=
  ∀ id markup m k, Keyed.get? lib.sources id = some markup → lib.builder.build markup = .ok m →
    ∀ x ∈ (m.run k).1, x.Everywhere Element.TableHeld

/-- Binding nodes whose table containers are held, against a context whose overrides are clean,
from a session that records only builds, gives clean output. By the binder's own induction: a
table container is a host element, whose children bind into elements (`bindNodes_held`); every
other kind wraps clean output in a fragment, or gives text or a value where no table container
stands; an included template is a build, held by `TemplatesHeld`; `Data` binds against contexts
of values alone. -/
theorem bindNodes_tablesClean (hb : b.library = some lib) (hlib : TemplatesHeld lib) :
    ∀ ctx d ns s, ctx.OverridesClean → lib.Records s → (∀ x ∈ ns, x.Everywhere Element.TableHeld) →
      ∀ r ∈ ((b.bindNodes ctx d ns).run s).1, r.TablesClean := by
  intro ctx d ns
  apply bindNodes.induct b
    (fun ctx d ns => ∀ s, ctx.OverridesClean → lib.Records s → (∀ x ∈ ns, x.Everywhere Element.TableHeld) →
      ∀ r ∈ ((b.bindNodes ctx d ns).run s).1, r.TablesClean)
    (fun ctx d x => ∀ s, ctx.OverridesClean → lib.Records s → x.Everywhere Element.TableHeld →
      ((b.bindNode ctx d x).run s).1.TablesClean)
    (fun children value d => ∀ s, lib.Records s → (∀ x ∈ children, x.Everywhere Element.TableHeld) →
      ((b.iterate children value d).run s).1.TablesClean)
    (fun attrs children ctx d => ∀ s, ctx.OverridesClean → lib.Records s →
      (∀ x ∈ children, x.Everywhere Element.TableHeld) → ((b.evaluateIf attrs children ctx d).run s).1.TablesClean)
  · intro ctx d s _ _ _ r hr
    rw [bindNodes_nil_run] at hr
    exact absurd hr List.not_mem_nil
  · intro ctx d x xs ihx ihxs s hov hs hheld r hr
    rw [bindNodes_cons_run, List.mem_cons] at hr
    rcases hr with rfl | hr
    · exact ihx s hov hs (hheld x (List.mem_cons_self ..))
    · exact ihxs _ hov (b.bindNode_records s hb ctx d x hs) (fun y hy => hheld y (List.mem_cons_of_mem _ hy)) r hr
  · intro ctx d t s _ _ _
    rw [bindNode_text_run]
    exact .text t
  · intro ctx d name attrs children key s _ _ _
    rw [bindNode_component_run]
    exact .component _ _ _ _
  · intro ctx d name attrs children key attributes ih s hov hs hheld
    rw [bindNode_conditional_run]
    cases hheld with
    | element _ hchildren => exact ih s hov hs hchildren
  · intro ctx d name attrs children key attributes ih s _ hs hheld
    rw [bindNode_iteration_run]
    cases hheld with
    | element _ hchildren => exact ih s hs hchildren
  -- `Include`: nothing, or the resolved template, a build, in a fragment
  · intro ctx d name attrs children key attributes hid s _ _ _
    rw [bindNode_include_absent b ctx d s name attrs children key hid]
    exact .empty
  · intro ctx d name attrs children key attributes id hid hd hlib'
    rw [hb] at hlib'
    cases hlib'
  · intro ctx d name attrs children key attributes id hid hd lib' hlib' ih s hov hs _
    rw [hb] at hlib'
    cases hlib'
    rw [bindNode_include_run b ctx d s name attrs children key hb hid hd]
    split
    · next nodes s' hr =>
      obtain ⟨markup, m, k, hsrc, hbuild, hrun⟩ := lib.resolve_built id s hs hr
      have hs' : lib.Records s' := by
        have := lib.resolve_records id s hs
        rwa [hr] at this
      exact .fragment (ih nodes s' hov hs' (hrun ▸ hlib id markup m k hsrc hbuild))
    · exact .empty
  · intro ctx d name attrs children key attributes id hid hd s _ _ _
    rw [bindNode_include_deep b ctx d s name attrs children key (by omega)]
    exact .empty
  -- `Lang`: a text, or its children in a fragment
  · intro ctx d name attrs children key attributes k hk s _ _ _
    rw [bindNode_translation_text b ctx d s name attrs children key hk]
    exact .text _
  · intro ctx d name attrs children key attributes hk ih s hov hs hheld
    rw [bindNode_translation_children b ctx d s name attrs children key hk]
    cases hheld with
    | element _ hchildren => exact .fragment (ih s hov hs hchildren)
  -- host elements: an override's clean output, or the element over its bound children
  · intro ctx d name attrs children key f hf s hov _ _
    rw [bindNode_tag_override b ctx d s name attrs children key hf]
    exact (hov name f hf _).2
  · intro ctx d name attrs children key hf ih s hov hs hheld
    rw [bindNode_tag_plain b ctx d s name attrs children key hf]
    cases hheld with
    | element hhere hchildren =>
      exact .element (fun htab => b.bindNodes_held hov d children s (hhere htab)) (ih s hov hs hchildren)
  -- `Data` over a list, a map, or anything else, each item against a context of values alone
  · intro children d items he s _ _
    rw [iterate_list_run, if_pos he]
    exact .empty
  · intro children d items he ih s hs hheld
    rw [iterate_list_run, if_neg he]
    refine .fragment (run_mapM_forall lib.Records Rendered.TablesClean _ ?_ ?_ items s hs)
    · intro item s' hs'
      exact b.bindNodes_records s' hb _ d children hs'
    · intro item s' hs'
      exact .fragment (ih item s' (Context.insertClean "value" item) hs' hheld)
  · intro children d entries he s _ _
    rw [iterate_map_run, if_pos he]
    exact .empty
  · intro children d entries he ih s hs hheld
    rw [iterate_map_run, if_neg he]
    refine .fragment (run_mapM_forall lib.Records Rendered.TablesClean _ ?_ ?_ entries s hs)
    · intro entry s' hs'
      exact b.bindNodes_records s' hb _ d children hs'
    · rintro ⟨k, v⟩ s' hs'
      exact .fragment (ih k v s' (Context.entryClean k v) hs' hheld)
  · intro children other d v hc hl hm ih s hs hheld
    rw [iterate_other_run b d s children other hl hm, if_neg (by simpa using hc)]
    exact .fragment (ih s (Context.insertClean "value" v) hs hheld)
  · intro children other d v hc hn hl hm s _ _
    rw [iterate_other_run b d s children other hl hm, if_pos (by simpa using hc), if_pos hn]
    exact .empty
  · intro children other d v hc hn hl hm s _ _
    rw [iterate_other_run b d s children other hl hm, if_pos (by simpa using hc), if_neg hn]
    exact .value _
  -- `If`: nothing, or its children in a fragment
  · intro attrs children ctx d subject ha s _ _ _
    rw [evaluateIf_run, if_neg (by simp [subject] at ha; simp [ha])]
    exact .empty
  · intro attrs children ctx d subject ha hc ih s hov hs hheld
    rw [evaluateIf_run, if_pos ⟨by simpa using ha, hc⟩]
    exact .fragment (ih s hov hs hheld)
  · intro attrs children ctx d subject ha hc s _ _ _
    rw [evaluateIf_run, if_neg (fun h' => hc h'.2)]
    exact .empty

end Binder

/-! ## The rule for table containers -/

theorem tableLang_parse :
    Markup.parse "<table><Lang>x</Lang></table>" =
      .ok [⟨.tag, "table", "", [], [⟨.tag, "Lang", "", [], [⟨.text, "", "x", [], []⟩]⟩]⟩] := by
  with_unfolding_all rfl

theorem rowsBody_parse :
    Markup.parse "<tbody><Data value=\"@data-rows\"><tr/></Data></tbody>" =
      .ok [⟨.tag, "tbody", "", [], [⟨.tag, "Data", "", [("value", "@data-rows")], [⟨.tag, "tr", "", [], []⟩]⟩]⟩] := by
  with_unfolding_all rfl

/-- Table containers hold no text. A template built over the built-in components, from any key,
has no table container holding text. Bound against any context whose overrides give clean output
that is not loose, from a session that records only builds of the library's sources, no rendered
table container holds text or a value, looking through fragments, when every table container of
the template and of the library's templates holds only nodes that bind into elements. -/
theorem table_containers_text_rule (bld : Builder) (hreg : bld.registry = Registry.standard)
    (source : String) (m : Minting (List Node)) (hbuild : bld.build source = .ok m) (k : Nat) :
    (∀ x ∈ (m.run k).1, x.Everywhere Element.NoTableText) ∧
    ∀ (b : Binder) (lib : Library), b.library = some lib → Binder.TemplatesHeld lib →
      ∀ ctx : Context, ctx.OverridesClean → ∀ s, lib.Records s →
      (∀ x ∈ (m.run k).1, x.Everywhere Element.TableHeld) →
      ∀ r ∈ ((b.bind (m.run k).1 ctx).run s).1, r.TablesClean := by
  refine ⟨?_, fun b lib hb hlib ctx hov s hs hheld => b.bindNodes_tablesClean hb hlib ctx 0 _ s hov hs hheld⟩
  intro x hx
  -- a template is the nodes built from the read markup, outside any element
  unfold Builder.build at hbuild
  cases hparse : Markup.parse source with
  | error f => rw [hparse] at hbuild; cases hbuild
  | ok raw =>
    rw [hparse] at hbuild
    cases hbuild
    exact (bld.buildNodes_tables hreg none raw k x hx).1

/-- The rule at `<tbody><Data value="@data-rows"><tr/></Data></tbody>`, whose rows a `Data`
repeats, bound against two rows. -/
theorem tbodyRows_bind_clean :
    ∃ m, Engine.standard.builder.build "<tbody><Data value=\"@data-rows\"><tr/></Data></tbody>" = .ok m ∧
      (∀ x ∈ (m.run 1).1, x.Everywhere Element.NoTableText) ∧
      ∀ r ∈ ((Engine.standard.binder.bind (m.run 1).1
        (Context.empty.insert "rows" (.list [.string "a", .string "b"]))).run Session.fresh).1, r.TablesClean := by
  have hbody : Engine.standard.builder.build "<tbody><Data value=\"@data-rows\"><tr/></Data></tbody>" =
      .ok (Engine.standard.builder.buildNodes none
        [⟨.tag, "tbody", "", [], [⟨.tag, "Data", "", [("value", "@data-rows")], [⟨.tag, "tr", "", [], []⟩]⟩]⟩]) := by
    rw [Builder.build, rowsBody_parse]
    rfl
  have hbuilt : (Engine.standard.builder.buildNodes none
      [⟨.tag, "tbody", "", [], [⟨.tag, "Data", "", [("value", "@data-rows")], [⟨.tag, "tr", "", [], []⟩]⟩]⟩]).run 1 =
      ([.element ⟨"tbody", .tag, [], [.element ⟨"Data", .iteration, [("value", .string "@data-rows")],
        [.element ⟨"tr", .tag, [], [], 3⟩], 2⟩], 1⟩], 4) := rfl
  -- the body holds the `Data`, which holds a row; nothing else is a table container
  have hrow : (Node.element ⟨"tr", .tag, [], [], 3⟩).Everywhere Element.TableHeld :=
    .element (fun _ c hc => absurd hc List.not_mem_nil) (fun c hc => absurd hc List.not_mem_nil)
  have hdata : (Node.element ⟨"Data", .iteration, [("value", .string "@data-rows")],
      [.element ⟨"tr", .tag, [], [], 3⟩], 2⟩).Everywhere Element.TableHeld := by
    refine .element (fun h => absurd h (by decide)) (fun c hc => ?_)
    rw [List.mem_singleton] at hc
    exact hc ▸ hrow
  have hheld : (Node.element ⟨"Data", .iteration, [("value", .string "@data-rows")],
      [.element ⟨"tr", .tag, [], [], 3⟩], 2⟩).HoldsInTable := by
    refine .iteration (List.cons_ne_nil _ _) (fun c hc => ?_)
    rw [List.mem_singleton] at hc
    exact hc ▸ .tag _ _ _ _
  have hbodyHeld : (Node.element ⟨"tbody", .tag, [], [.element ⟨"Data", .iteration,
      [("value", .string "@data-rows")], [.element ⟨"tr", .tag, [], [], 3⟩], 2⟩], 1⟩).Everywhere
      Element.TableHeld := by
    refine .element (fun _ c hc => ?_) (fun c hc => ?_) <;> rw [List.mem_singleton] at hc <;> subst hc
    · exact hheld
    · exact hdata
  obtain ⟨hbuildClean, hbindClean⟩ := table_containers_text_rule Engine.standard.builder rfl _ _ hbody 1
  refine ⟨_, hbody, hbuildClean, hbindClean Engine.standard.binder Engine.standard.library rfl
    (fun _ _ _ _ hsrc => by cases hsrc) _ (Context.insertClean "rows" _) Session.fresh
    Engine.standard.library.records_fresh ?_⟩
  rw [hbuilt]
  intro x hx
  rw [List.mem_singleton] at hx
  exact hx ▸ hbodyHeld

/-- A `Lang` without a text as the first child of a table container puts the text it starts
with into the container: the rendered container is not clean. -/
theorem Binder.bindNode_table_lang_loose (b : Binder) {ctx : Context} {d : Nat} {s : Session}
    {name lname t : String} {attrs lattrs : Attributes} {rest more : List Node} {key lkey : Nat}
    (hname : name ∈ tableContainers) (hf : ctx.override? name = none)
    (hk : (Keyed.get? (transformAttributes b.translation lattrs ctx) "text").bind Value.display = none) :
    ¬ ((b.bindNode ctx d (.element ⟨name, .tag, attrs,
        .element ⟨lname, .translation, lattrs, .text t :: rest, lkey⟩ :: more, key⟩)).run s).1.TablesClean := by
  rw [Binder.bindNode_tag_plain b ctx d s name attrs _ key hf, Binder.bindNodes_cons_run,
    Binder.bindNode_translation_children b ctx d s lname lattrs _ lkey hk, Binder.bindNodes_cons_run,
    Binder.bindNode_text_run]
  intro hclean
  cases hclean with
  | element held _ =>
    have hloose := held hname _ List.mem_cons_self
    simp [Rendered.loose, Rendered.looseAny] at hloose

/-- `<table><Lang>x</Lang></table>`, built and bound against the empty context, is a table
holding a fragment with the text `x`. -/
example : ∃ m, Engine.standard.builder.build "<table><Lang>x</Lang></table>" = .ok m ∧
    ((Engine.standard.binder.bind (m.run 1).1 Context.empty).run Session.fresh).1 =
      [.element "table" 1 [] [.fragment [.text "x"]]] := by
  refine ⟨_, by rw [Builder.build, tableLang_parse]; rfl, ?_⟩
  have hbuilt : (Engine.standard.builder.buildNodes none
        [⟨.tag, "table", "", [], [⟨.tag, "Lang", "", [], [⟨.text, "", "x", [], []⟩]⟩]⟩]).run 1 =
      ([.element ⟨"table", .tag, [], [.element ⟨"Lang", .translation, [], [.text "x"], 2⟩], 1⟩], 3) := rfl
  have hlang : (Keyed.get? (transformAttributes Engine.standard.binder.translation [] Context.empty) "text").bind
      Value.display = none := rfl
  rw [hbuilt, Binder.bind, Binder.bindNodes_cons_run, Binder.bindNode_tag_plain _ _ _ _ _ _ _ _ rfl,
    Binder.bindNodes_cons_run, Binder.bindNode_translation_children _ _ _ _ _ _ _ _ hlang,
    Binder.bindNodes_cons_run, Binder.bindNode_text_run]
  simp only [Binder.bindNodes_nil_run]
  rfl

end Stencil
