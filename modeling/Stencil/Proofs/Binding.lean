/-
Running the binder from a session. One equation for each way a node is bound, stated on the run,
so that later proofs cite them and never unfold `Binder.bindNode`; then the one fact about the
session that every proof about binding needs: binding changes the session only by resolving
templates of the binder's library and by minting handlers, so any property of sessions that
those two keep holds after every binding (`Binder.bindNodes_preserves`). The property used
throughout is `Library.Records`: every template the session holds was built from its source.
-/
import Stencil.Bind.Basic

namespace Stencil

/-! ## Runs of state computations -/

theorem run_mapM_nil {σ α β : Type} (f : α → StateM σ β) (s : σ) : (([] : List α).mapM f).run s = ([], s) :=
  rfl

theorem run_mapM_cons {σ α β : Type} (f : α → StateM σ β) (x : α) (xs : List α) (s : σ) :
    ((x :: xs).mapM f).run s =
      (((f x).run s).1 :: ((xs.mapM f).run ((f x).run s).2).1, ((xs.mapM f).run ((f x).run s).2).2) := by
  simp only [List.mapM_cons, StateT.run_bind, StateT.run_pure]; rfl

theorem run_mapM_preserves {σ α β : Type} (P : σ → Prop) (f : α → StateM σ β)
    (hf : ∀ x s, P s → P ((f x).run s).2) : ∀ (xs : List α) (s : σ), P s → P ((xs.mapM f).run s).2
  | [], _, h => h
  | x :: xs, s, h => by
    rw [run_mapM_cons]
    exact run_mapM_preserves P f hf xs _ (hf x s h)

theorem run_mapM_forall {σ α β : Type} (P : σ → Prop) (Q : β → Prop) (f : α → StateM σ β)
    (hP : ∀ x s, P s → P ((f x).run s).2) (hf : ∀ x s, P s → Q ((f x).run s).1) :
    ∀ (xs : List α) (s : σ), P s → ∀ y ∈ ((xs.mapM f).run s).1, Q y
  | [], s, _, y, hy => by rw [run_mapM_nil] at hy; exact absurd hy List.not_mem_nil
  | x :: xs, s, h, y, hy => by
    rw [run_mapM_cons, List.mem_cons] at hy
    rcases hy with rfl | hy
    · exact hf x s h
    · exact run_mapM_forall P Q f hP hf xs _ (hP x s h) y hy

/-! ## Resolving templates -/

namespace Library

variable (lib : Library) (id : String) (s : Session)

theorem resolve_cached {t : List Node} (h : Keyed.get? s.built id = some t) :
    (lib.resolve id).run s = (.ok (some t), s) := by
  simp only [resolve, StateT.run, h]

theorem resolve_unknown (h1 : Keyed.get? s.built id = none) (h2 : Keyed.get? lib.sources id = none) :
    (lib.resolve id).run s = (.ok none, s) := by
  simp only [resolve, StateT.run, h1, h2]

theorem resolve_fault {markup : String} {f : Markup.Fault} (h1 : Keyed.get? s.built id = none)
    (h2 : Keyed.get? lib.sources id = some markup) (h3 : lib.builder.build markup = .error f) :
    (lib.resolve id).run s = (.error (.templateMarkup id f), s) := by
  simp only [resolve, StateT.run, h1, h2, h3]

theorem resolve_build {markup : String} {m : Minting (List Node)} (h1 : Keyed.get? s.built id = none)
    (h2 : Keyed.get? lib.sources id = some markup) (h3 : lib.builder.build markup = .ok m) :
    (lib.resolve id).run s =
      (.ok (some (m.run s.nextKey).1),
        { s with nextKey := (m.run s.nextKey).2, built := Keyed.insert s.built id (m.run s.nextKey).1 }) := by
  simp only [resolve, StateT.run, h1, h2, h3]
  rfl

/-- Every template the session holds was built by the library's builder from the source of its
id, starting from some key. -/
def Records (s : Session) : Prop :=
  ∀ id t, Keyed.get? s.built id = some t →
    ∃ markup m k, Keyed.get? lib.sources id = some markup ∧ lib.builder.build markup = .ok m ∧ (m.run k).1 = t

theorem records_fresh : lib.Records Session.fresh := by
  intro id t h
  simp [Session.fresh, Keyed.get?] at h

/-- What resolving can do: hand back the recorded template, leave the session as it was without
a template, or, with no template recorded, build the id's source from the next key and record
it. -/
theorem resolve_cases :
    (∃ t, Keyed.get? s.built id = some t ∧ (lib.resolve id).run s = (.ok (some t), s)) ∨
    (∃ r, (lib.resolve id).run s = (r, s) ∧ ∀ t, r ≠ .ok (some t)) ∨
    ∃ markup m, Keyed.get? s.built id = none ∧ Keyed.get? lib.sources id = some markup ∧
      lib.builder.build markup = .ok m ∧ (lib.resolve id).run s = (.ok (some (m.run s.nextKey).1),
        { s with nextKey := (m.run s.nextKey).2, built := Keyed.insert s.built id (m.run s.nextKey).1 }) := by
  cases h1 : Keyed.get? s.built id with
  | some t => exact .inl ⟨t, rfl, resolve_cached lib id s h1⟩
  | none =>
    cases h2 : Keyed.get? lib.sources id with
    | none => exact .inr (.inl ⟨_, resolve_unknown lib id s h1 h2, fun _ h => by cases h⟩)
    | some markup =>
      cases h3 : lib.builder.build markup with
      | error f => exact .inr (.inl ⟨_, resolve_fault lib id s h1 h2 h3, fun _ h => by cases h⟩)
      | ok m => exact .inr (.inr ⟨markup, m, rfl, rfl, h3, resolve_build lib id s h1 h2 h3⟩)

theorem resolve_built (h : lib.Records s) {t : List Node} {s' : Session}
    (hr : (lib.resolve id).run s = (.ok (some t), s')) :
    ∃ markup m k, Keyed.get? lib.sources id = some markup ∧ lib.builder.build markup = .ok m ∧ (m.run k).1 = t := by
  rcases resolve_cases lib id s with ⟨t', h1, hr'⟩ | ⟨r, hr', hne⟩ | ⟨markup, m, -, h2, h3, hr'⟩
  · rw [hr'] at hr
    cases hr
    exact h id t h1
  · rw [hr'] at hr
    cases hr
    exact absurd rfl (hne t)
  · rw [hr'] at hr
    cases hr
    exact ⟨markup, m, s.nextKey, h2, h3, rfl⟩

theorem resolve_records (h : lib.Records s) : lib.Records ((lib.resolve id).run s).2 := by
  rcases resolve_cases lib id s with ⟨t, _, hr⟩ | ⟨r, hr, _⟩ | ⟨markup, m, -, h2, h3, hr⟩
  · rw [hr]; exact h
  · rw [hr]; exact h
  · rw [hr]
    intro j t hj
    by_cases hji : j = id
    · subst hji
      rw [Keyed.get?_insert_self] at hj
      cases hj
      exact ⟨markup, m, s.nextKey, h2, h3, rfl⟩
    · rw [Keyed.get?_insert_other _ _ _ _ hji] at hj
      exact h j t hj

theorem resolve_of_source (h : lib.Records s) {markup : String} {m : Minting (List Node)}
    (h2 : Keyed.get? lib.sources id = some markup) (h3 : lib.builder.build markup = .ok m) :
    ∃ k s', (lib.resolve id).run s = (.ok (some (m.run k).1), s') ∧ lib.Records s' := by
  cases h1 : Keyed.get? s.built id with
  | some t =>
    obtain ⟨markup', m', k, h2', h3', ht⟩ := h id t h1
    rw [h2] at h2'; cases h2'
    rw [h3] at h3'; cases h3'
    exact ⟨k, s, by rw [resolve_cached lib id s h1, ht], h⟩
  | none =>
    refine ⟨s.nextKey, _, resolve_build lib id s h1 h2 h3, ?_⟩
    have := resolve_records lib id s h
    rwa [resolve_build lib id s h1 h2 h3] at this

end Library

/-! ## Binding, one node kind at a time -/

namespace Binder

variable (b : Binder) (ctx : Context) (d : Nat) (s : Session)

@[simp] theorem bindNodes_nil_run : (b.bindNodes ctx d []).run s = ([], s) := by
  rw [bindNodes]; rfl

theorem bindNodes_cons_run (n : Node) (ns : List Node) :
    (b.bindNodes ctx d (n :: ns)).run s =
      (((b.bindNode ctx d n).run s).1 :: ((b.bindNodes ctx d ns).run ((b.bindNode ctx d n).run s).2).1,
        ((b.bindNodes ctx d ns).run ((b.bindNode ctx d n).run s).2).2) := by
  rw [bindNodes]; simp only [StateT.run_bind, StateT.run_pure]; rfl

@[simp] theorem bindNode_text_run (t : String) : (b.bindNode ctx d (.text t)).run s = (.text t, s) := by
  rw [bindNode]; rfl

variable (name : String) (attrs : Attributes) (children : List Node) (key : Nat)

theorem bindNode_component_run :
    (b.bindNode ctx d (.element ⟨name, .component, attrs, children, key⟩)).run s =
      (.component name key (transformAttributes b.translation attrs ctx) children, s) := by
  rw [bindNode]; rfl

theorem bindNode_conditional_run :
    (b.bindNode ctx d (.element ⟨name, .conditional, attrs, children, key⟩)).run s =
      (b.evaluateIf (transformAttributes b.translation attrs ctx) children ctx d).run s := by
  rw [bindNode]

theorem bindNode_iteration_run :
    (b.bindNode ctx d (.element ⟨name, .iteration, attrs, children, key⟩)).run s =
      (b.iterate children (Keyed.get? (transformAttributes b.translation attrs ctx) "value") d).run s := by
  rw [bindNode]

theorem bindNode_include_deep (h : maxIncludeDepth ≤ d) :
    (b.bindNode ctx d (.element ⟨name, .include, attrs, children, key⟩)).run s = (.empty, s) := by
  rw [bindNode]
  split
  · rfl
  · rw [dif_neg (by omega)]; rfl

theorem bindNode_include_absent
    (hid : (Keyed.get? (transformAttributes b.translation attrs ctx) "templateId").bind Value.display = none) :
    (b.bindNode ctx d (.element ⟨name, .include, attrs, children, key⟩)).run s = (.empty, s) := by
  rw [bindNode]; simp only [hid]; rfl

theorem bindNode_include_nolibrary (hb : b.library = none) :
    (b.bindNode ctx d (.element ⟨name, .include, attrs, children, key⟩)).run s = (.empty, s) := by
  rw [bindNode]
  split
  · rfl
  · split
    · simp only [hb]; rfl
    · rfl

theorem bindNode_include_run {lib : Library} (hb : b.library = some lib) {id : String}
    (hid : (Keyed.get? (transformAttributes b.translation attrs ctx) "templateId").bind Value.display = some id)
    (h : d < maxIncludeDepth) :
    (b.bindNode ctx d (.element ⟨name, .include, attrs, children, key⟩)).run s =
      match (lib.resolve id).run s with
      | (.ok (some nodes), s') =>
        (.fragment ((b.bindNodes ctx (d + 1) nodes).run s').1, ((b.bindNodes ctx (d + 1) nodes).run s').2)
      | (_, s') => (.empty, s') := by
  rw [bindNode]
  simp only [hid, dif_pos h, hb, StateT.run_bind]
  rcases (lib.resolve id).run s with ⟨_ | _ | nodes, s'⟩ <;> rfl

theorem bindNode_include_resolved {lib : Library} (hb : b.library = some lib) {id : String}
    (hid : (Keyed.get? (transformAttributes b.translation attrs ctx) "templateId").bind Value.display = some id)
    (h : d < maxIncludeDepth) {nodes : List Node} {s' : Session}
    (hr : (lib.resolve id).run s = (.ok (some nodes), s')) :
    (b.bindNode ctx d (.element ⟨name, .include, attrs, children, key⟩)).run s =
      (.fragment ((b.bindNodes ctx (d + 1) nodes).run s').1, ((b.bindNodes ctx (d + 1) nodes).run s').2) := by
  rw [bindNode_include_run b ctx d s name attrs children key hb hid h, hr]

theorem bindNode_translation_text {k : String}
    (h : (Keyed.get? (transformAttributes b.translation attrs ctx) "text").bind Value.display = some k) :
    (b.bindNode ctx d (.element ⟨name, .translation, attrs, children, key⟩)).run s =
      (.text (b.translation.translator.translate k b.translation.domain), s) := by
  rw [bindNode]; simp only [h]; rfl

theorem bindNode_translation_children
    (h : (Keyed.get? (transformAttributes b.translation attrs ctx) "text").bind Value.display = none) :
    (b.bindNode ctx d (.element ⟨name, .translation, attrs, children, key⟩)).run s =
      (.fragment ((b.bindNodes ctx d children).run s).1, ((b.bindNodes ctx d children).run s).2) := by
  rw [bindNode]; simp only [h, StateT.run_bind, StateT.run_pure]; rfl

theorem bindNode_tag_override {f : Element → Rendered} (hf : ctx.override? name = some f) :
    (b.bindNode ctx d (.element ⟨name, .tag, attrs, children, key⟩)).run s =
      (f ⟨name, .tag, transformAttributes b.translation attrs ctx, children, key⟩, s) := by
  rw [bindNode]; simp only [hf]; rfl

theorem bindNode_tag_plain (hf : ctx.override? name = none) :
    (b.bindNode ctx d (.element ⟨name, .tag, attrs, children, key⟩)).run s =
      (.element name key
          ((b.linkAttributes name (transformAttributes b.translation attrs ctx)).run
            ((b.bindNodes ctx d children).run s).2).1
          ((b.bindNodes ctx d children).run s).1,
        ((b.linkAttributes name (transformAttributes b.translation attrs ctx)).run
          ((b.bindNodes ctx d children).run s).2).2) := by
  rw [bindNode]; simp only [hf, StateT.run_bind, StateT.run_pure]; rfl

theorem evaluateIf_run :
    (b.evaluateIf attrs children ctx d).run s =
      if isAbsentMarker (Keyed.get? attrs "context") = false ∧
          (Condition.ofAttributes attrs).holds ((Keyed.get? attrs "context").getD .null) = true then
        (.fragment ((b.bindNodes ctx d children).run s).1, ((b.bindNodes ctx d children).run s).2)
      else (.empty, s) := by
  rw [evaluateIf]
  cases isAbsentMarker (Keyed.get? attrs "context") <;>
    cases (Condition.ofAttributes attrs).holds ((Keyed.get? attrs "context").getD .null) <;> rfl

theorem iterate_list_run (items : List Value) :
    (b.iterate children (some (.list items)) d).run s =
      if children.isEmpty then (.empty, s)
      else
        (.fragment ((items.mapM fun item => do
            return Rendered.fragment (← b.bindNodes (Context.empty.insert "value" item) d children)).run s).1,
          ((items.mapM fun item => do
            return Rendered.fragment (← b.bindNodes (Context.empty.insert "value" item) d children)).run s).2) := by
  rw [iterate]; cases children.isEmpty <;> rfl

theorem iterate_map_run (entries : List (String × Value)) :
    (b.iterate children (some (.map entries)) d).run s =
      if children.isEmpty then (.empty, s)
      else
        (.fragment ((entries.mapM fun (k, v) => do
            return Rendered.fragment
              (← b.bindNodes ((Context.empty.insert "name" (.string k)).insert "value" v) d children)).run s).1,
          ((entries.mapM fun (k, v) => do
            return Rendered.fragment
              (← b.bindNodes ((Context.empty.insert "name" (.string k)).insert "value" v) d children)).run s).2) := by
  rw [iterate]; cases children.isEmpty <;> rfl

theorem iterate_other_run (value : Option Value) (hl : ∀ items, value = some (.list items) → False)
    (hm : ∀ entries, value = some (.map entries) → False) :
    (b.iterate children value d).run s =
      if children.isEmpty then
        (if (value.getD .null).isNull then (.empty, s) else (.value (value.getD .null), s))
      else
        (.fragment ((b.bindNodes (Context.empty.insert "value" (value.getD .null)) d children).run s).1,
          ((b.bindNodes (Context.empty.insert "value" (value.getD .null)) d children).run s).2) := by
  rw [iterate.eq_3 _ _ _ _ hl hm]
  cases children.isEmpty <;> cases (value.getD .null).isNull <;> rfl

theorem linkAttributes_preserves (P : Session → Prop) (hhandler : ∀ a s, P s → P ((Rendering.handler a).run s).2)
    (attrs : Attributes) (h : P s) : P ((b.linkAttributes name attrs).run s).2 := by
  unfold linkAttributes
  split
  · split
    · split
      · exact h
      · rename_i _ _ url _ _
        simp only [StateT.run_bind, StateT.run_pure]
        exact hhandler (.navigate url) s h
    · exact h
  · exact h

/-- A property of sessions that resolving a template of the binder's library and minting a
handler keep is kept by binding any nodes, at any depth, against any context. -/
theorem bindNodes_preserves (P : Session → Prop)
    (hres : ∀ lib, b.library = some lib → ∀ id s, P s → P ((lib.resolve id).run s).2)
    (hhandler : ∀ a s, P s → P ((Rendering.handler a).run s).2) :
    ∀ ctx d ns s, P s → P ((b.bindNodes ctx d ns).run s).2 := by
  intro ctx d ns
  apply bindNodes.induct b (fun ctx d ns => ∀ s, P s → P ((b.bindNodes ctx d ns).run s).2)
    (fun ctx d n => ∀ s, P s → P ((b.bindNode ctx d n).run s).2)
    (fun children value d => ∀ s, P s → P ((b.iterate children value d).run s).2)
    (fun attrs children ctx d => ∀ s, P s → P ((b.evaluateIf attrs children ctx d).run s).2)
  -- lists: the nodes one after another
  · intro ctx d s h; simpa using h
  · intro ctx d n ns ihn ihns s h
    rw [bindNodes_cons_run]; exact ihns _ (ihn s h)
  -- a text, a component: nothing happens
  · intro ctx d t s h; simpa using h
  · intro ctx d name attrs children key s h; rw [bindNode_component_run]; exact h
  -- `If` and `Data` hand over to their own functions
  · intro ctx d name attrs children key attributes ih s h; rw [bindNode_conditional_run]; exact ih s h
  · intro ctx d name attrs children key attributes ih s h; rw [bindNode_iteration_run]; exact ih s h
  -- `Include`: resolving the template, then binding it one include deeper
  · intro ctx d name attrs children key attributes hid s h
    rw [bindNode_include_absent b ctx d s name attrs children key hid]; exact h
  · intro ctx d name attrs children key attributes id hid hd hlib s h
    rw [bindNode_include_nolibrary b ctx d s name attrs children key hlib]; exact h
  · intro ctx d name attrs children key attributes id hid hd lib hlib ih s h
    rw [bindNode_include_run b ctx d s name attrs children key hlib hid hd]
    have h1 := hres lib hlib id s h
    split
    · next nodes s' hr => rw [hr] at h1; exact ih nodes s' h1
    · next s' _ hr => rw [hr] at h1; exact h1
  · intro ctx d name attrs children key attributes id hid hd s h
    rw [bindNode_include_deep b ctx d s name attrs children key (by omega)]; exact h
  -- `Lang`: a translated text, or the children
  · intro ctx d name attrs children key attributes k hk s h
    rw [bindNode_translation_text b ctx d s name attrs children key hk]; exact h
  · intro ctx d name attrs children key attributes hk ih s h
    rw [bindNode_translation_children b ctx d s name attrs children key hk]; exact ih s h
  -- host elements: an override's output, or the children and then the link rewrite
  · intro ctx d name attrs children key f hf s h
    rw [bindNode_tag_override b ctx d s name attrs children key hf]; exact h
  · intro ctx d name attrs children key hf ih s h
    rw [bindNode_tag_plain b ctx d s name attrs children key hf]
    exact linkAttributes_preserves b _ name P hhandler _ (ih s h)
  -- `Data` over a list, a map, or anything else
  · intro children d items he s h; rw [iterate_list_run, if_pos he]; exact h
  · intro children d items he ih s h
    rw [iterate_list_run, if_neg he]
    exact run_mapM_preserves P (fun item => do
      return Rendered.fragment (← b.bindNodes (Context.empty.insert "value" item) d children))
      (fun item s h => ih item s h) items s h
  · intro children d entries he s h; rw [iterate_map_run, if_pos he]; exact h
  · intro children d entries he ih s h
    rw [iterate_map_run, if_neg he]
    refine run_mapM_preserves P _ ?_ entries s h
    rintro ⟨k, v⟩ u hu
    exact ih k v u hu
  · intro children other d v hc hl hm ih s h
    rw [iterate_other_run b d s children other hl hm, if_neg (by simpa using hc)]; exact ih s h
  · intro children other d v hc hn hl hm s h
    rw [iterate_other_run b d s children other hl hm, if_pos (by simpa using hc), if_pos hn]; exact h
  · intro children other d v hc hn hl hm s h
    rw [iterate_other_run b d s children other hl hm, if_pos (by simpa using hc), if_neg hn]; exact h
  -- `If`: nothing, or the children
  · intro attrs children ctx d subject ha s h
    rw [evaluateIf_run, if_neg (by simp [subject] at ha; simp [ha])]; exact h
  · intro attrs children ctx d subject ha hc ih s h
    rw [evaluateIf_run, if_pos ⟨by simpa using ha, hc⟩]; exact ih s h
  · intro attrs children ctx d subject ha hc s h
    rw [evaluateIf_run, if_neg (fun h' => hc h'.2)]; exact h

/-- Binding keeps every recorded template a build of its source. -/
theorem bindNodes_records {lib : Library} (hb : b.library = some lib) (ctx : Context) (d : Nat) (ns : List Node)
    (h : lib.Records s) : lib.Records ((b.bindNodes ctx d ns).run s).2 :=
  b.bindNodes_preserves lib.Records
    (fun lib' hlib' id s h => by rw [hb] at hlib'; cases hlib'; exact lib.resolve_records id s h)
    (fun _ _ h => h) ctx d ns s h

theorem bindNode_records {lib : Library} (hb : b.library = some lib) (ctx : Context) (d : Nat) (x : Node)
    (h : lib.Records s) : lib.Records ((b.bindNode ctx d x).run s).2 := by
  have hx := b.bindNodes_records s hb ctx d [x] h
  rwa [bindNodes_cons_run, bindNodes_nil_run] at hx

end Binder

end Stencil
