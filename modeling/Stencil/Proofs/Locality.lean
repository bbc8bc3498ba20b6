/-
Binding reads the context only where the templates refer to it. A tree refers to a name by an
element of that name (an override is found by it) and by a data directive on it, in an
attribute's name or text; a library refers to the names its templates refer to, those it can
build and those a session has recorded. Two non-empty contexts with the same entry under every
name the tree and the library refer to bind the tree alike from one session: the same output and
the same session after, so the same handlers and the same recorded templates
(`Binder.bind_context_local`).
-/
import Stencil.Proofs.Binding
import Stencil.Proofs.Directive
import Stencil.Engine

namespace Stencil

/-! ## Names a tree refers to -/

/-- `n` is referred to by a node: an element named `n`, an attribute that mentions `n`, or a
child that refers to `n`. -/
inductive Node.Mentions (n : String) : Node → Prop
  | name {kind : Kind} {attrs : Attributes} {children : List Node} {key : Nat} :
      Mentions n (.element ⟨n, kind, attrs, children, key⟩)
  | attr {name : String} {kind : Kind} {attrs : Attributes} {children : List Node} {key : Nat}
      {a : String × Value} : a ∈ attrs → AttributeMentions n a →
      Mentions n (.element ⟨name, kind, attrs, children, key⟩)
  | child {name : String} {kind : Kind} {attrs : Attributes} {children : List Node} {key : Nat}
      {c : Node} : c ∈ children → Mentions n c → Mentions n (.element ⟨name, kind, attrs, children, key⟩)

/-- `n` is referred to by one of the nodes. -/
def NodesMention (n : String) (ns : List Node) : Prop := ∃ x ∈ ns, x.Mentions n

theorem nodesMention_cons {n : String} {x : Node} {xs : List Node} :
    NodesMention n (x :: xs) ↔ x.Mentions n ∨ NodesMention n xs := by
  simp [NodesMention]

/-- `n` is referred to by a template built from a source of the library, whatever key building
starts from. -/
def Library.BuildsMention (lib : Library) (n : String) : Prop :=
  ∃ id markup m k, Keyed.get? lib.sources id = some markup ∧ lib.builder.build markup = .ok m ∧
    NodesMention n (m.run k).1

/-- `n` is referred to by a template of the library: one built from a source, or one the
session has recorded. -/
def Library.Mentions (lib : Library) (s : Session) (n : String) : Prop :=
  (∃ id t, Keyed.get? s.built id = some t ∧ NodesMention n t) ∨ lib.BuildsMention n

theorem Library.buildsMention_of_records {lib : Library} {s : Session} (h : lib.Records s) {n : String}
    (hn : lib.Mentions s n) : lib.BuildsMention n := by
  rcases hn with ⟨id, t, ht, hm⟩ | hb
  · obtain ⟨markup, m, k, hsrc, hbuild, hrun⟩ := h id t ht
    exact ⟨id, markup, m, k, hsrc, hbuild, hrun ▸ hm⟩
  · exact hb

theorem Library.resolve_mentions (lib : Library) (id : String) (s : Session) :
    (∀ n, lib.Mentions ((lib.resolve id).run s).2 n → lib.Mentions s n) ∧
    ∀ nodes, ((lib.resolve id).run s).1 = .ok (some nodes) → ∀ n, NodesMention n nodes → lib.Mentions s n := by
  rcases lib.resolve_cases id s with ⟨t, h1, hr⟩ | ⟨r, hr, hne⟩ | ⟨markup, m, -, h2, h3, hr⟩
  · rw [hr]
    refine ⟨fun _ h => h, ?_⟩
    rintro _ ⟨⟩ n hn
    exact .inl ⟨id, t, h1, hn⟩
  · rw [hr]
    exact ⟨fun _ h => h, fun nodes h => absurd h (hne nodes)⟩
  · rw [hr]
    refine ⟨?_, ?_⟩
    · -- the recorded templates are those before and the new build
      rintro n (⟨j, t, hj, hn⟩ | hsrc)
      · by_cases hji : j = id
        · subst hji
          rw [Keyed.get?_insert_self] at hj
          cases hj
          exact .inr ⟨j, markup, m, s.nextKey, h2, h3, hn⟩
        · rw [Keyed.get?_insert_other _ _ _ _ hji] at hj
          exact .inl ⟨j, t, hj, hn⟩
      · exact .inr hsrc
    · rintro _ ⟨⟩ n hn
      exact .inr ⟨id, markup, m, s.nextKey, h2, h3, hn⟩

/-! ## Contexts that agree on names -/

/-- Two contexts with the same entry, value or override, under every name `N` holds. -/
def Context.AgreeOn (N : String → Prop) (c c' : Context) : Prop := ∀ n, N n → c.get? n = c'.get? n

theorem Context.get?_insert_ne (c : Context) {k n : String} (v : Value) (h : n ≠ k) :
    (c.insert k v).get? n = c.get? n :=
  Keyed.get?_insert_other _ _ _ _ h

namespace Context.AgreeOn

variable {N M : String → Prop} {c c' : Context}

theorem mono (h : AgreeOn N c c') (hsub : ∀ n, M n → N n) : AgreeOn M c c' :=
  fun n hn => h n (hsub n hn)

theorem value? (h : AgreeOn N c c') {n : String} (hn : N n) : c.value? n = c'.value? n := by
  unfold Context.value?
  rw [h n hn]

theorem override? (h : AgreeOn N c c') {n : String} (hn : N n) : c.override? n = c'.override? n := by
  unfold Context.override?
  rw [h n hn]

end Context.AgreeOn

theorem Context.AgreeOn.element {lib : Library} {s : Session} {c c' : Context} {name : String} {kind : Kind}
    {attrs : Attributes} {children : List Node} {key : Nat}
    (h : AgreeOn (fun n => (Node.element ⟨name, kind, attrs, children, key⟩).Mentions n ∨ lib.Mentions s n) c c') :
    c.override? name = c'.override? name ∧ (∀ n, (∃ a ∈ attrs, AttributeMentions n a) → c.value? n = c'.value? n) ∧
      AgreeOn (fun n => NodesMention n children ∨ lib.Mentions s n) c c' := by
  refine ⟨h.override? (.inl .name), ?_, ?_⟩
  · rintro n ⟨a, ha, hn⟩
    exact h.value? (.inl (.attr ha hn))
  · rintro n (⟨x, hx, hn⟩ | hlib)
    · exact h n (.inl (.child hx hn))
    · exact h n (.inr hlib)

/-! ## Binding under agreeing contexts -/

namespace Binder

variable (b : Binder) {lib : Library}

/-- Binding refers to no name the library did not refer to before: it only records builds. -/
theorem bindNodes_mentions (hb : b.library = some lib) (ctx : Context) (d : Nat) (ns : List Node) (s : Session) :
    ∀ n, lib.Mentions ((b.bindNodes ctx d ns).run s).2 n → lib.Mentions s n :=
  b.bindNodes_preserves (fun s' => ∀ n, lib.Mentions s' n → lib.Mentions s n)
    (fun lib' hlib' id s' h n hn => by
      rw [hb] at hlib'
      cases hlib'
      exact h n ((lib.resolve_mentions id s').1 n hn))
    (fun _ _ h => h) ctx d ns s (fun _ h => h)

theorem bindNode_mentions (hb : b.library = some lib) (ctx : Context) (d : Nat) (x : Node) (s : Session) :
    ∀ n, lib.Mentions ((b.bindNode ctx d x).run s).2 n → lib.Mentions s n := by
  have h := b.bindNodes_mentions hb ctx d [x] s
  rwa [bindNodes_cons_run, bindNodes_nil_run] at h

/-- Binding from one session under two non-empty contexts that agree on every name the nodes and
the library refer to gives the same output and session. By the binder's own induction: every
element's attributes come out the same (`transformAttributes_congr`), so both runs take the same
branch; children and included templates are bound under contexts that still agree, since
recording templates adds no name (`bindNode_mentions`); and `Data` binds under contexts of its own,
the same in both runs. -/
theorem bindNodes_congr (hb : b.library = some lib) :
    ∀ ctx d ns ctx' s, ctx.isEmpty = false → ctx'.isEmpty = false →
      Context.AgreeOn (fun n => NodesMention n ns ∨ lib.Mentions s n) ctx ctx' →
      (b.bindNodes ctx d ns).run s = (b.bindNodes ctx' d ns).run s := by
  intro ctx d ns
  apply bindNodes.induct b
    (fun ctx d ns => ∀ ctx' s, ctx.isEmpty = false → ctx'.isEmpty = false →
      Context.AgreeOn (fun n => NodesMention n ns ∨ lib.Mentions s n) ctx ctx' →
      (b.bindNodes ctx d ns).run s = (b.bindNodes ctx' d ns).run s)
    (fun ctx d x => ∀ ctx' s, ctx.isEmpty = false → ctx'.isEmpty = false →
      Context.AgreeOn (fun n => x.Mentions n ∨ lib.Mentions s n) ctx ctx' →
      (b.bindNode ctx d x).run s = (b.bindNode ctx' d x).run s)
    (fun _ _ _ => True)
    (fun attrs children ctx d => ∀ ctx' s, ctx.isEmpty = false → ctx'.isEmpty = false →
      Context.AgreeOn (fun n => NodesMention n children ∨ lib.Mentions s n) ctx ctx' →
      (b.evaluateIf attrs children ctx d).run s = (b.evaluateIf attrs children ctx' d).run s)
  · intro ctx d ctx' s _ _ _
    simp
  · intro ctx d x xs ihx ihxs ctx' s hc hc' h
    have hx := ihx ctx' s hc hc' (h.mono fun n => Or.imp_left fun hn => nodesMention_cons.2 (.inl hn))
    have hxs := ihxs ctx' ((b.bindNode ctx d x).run s).2 hc hc'
      (h.mono fun n => Or.imp (fun hn => nodesMention_cons.2 (.inr hn)) (b.bindNode_mentions hb ctx d x s n))
    rw [bindNodes_cons_run, bindNodes_cons_run, ← hx, hxs]
  · intro ctx d t ctx' s _ _ _
    simp
  · intro ctx d name attrs children key ctx' s hc hc' h
    obtain ⟨_, hattr, _⟩ := h.element
    rw [bindNode_component_run, bindNode_component_run, transformAttributes_congr _ attrs hc hc' hattr]
  · intro ctx d name attrs children key attributes ih ctx' s hc hc' h
    obtain ⟨_, hattr, hchildren⟩ := h.element
    rw [bindNode_conditional_run, bindNode_conditional_run, ← transformAttributes_congr _ attrs hc hc' hattr]
    exact ih ctx' s hc hc' hchildren
  · intro ctx d name attrs children key attributes _ ctx' s hc hc' h
    obtain ⟨_, hattr, _⟩ := h.element
    rw [bindNode_iteration_run, bindNode_iteration_run, transformAttributes_congr _ attrs hc hc' hattr]
  -- `Include`: the same id, the same resolution, the template under agreeing contexts
  · intro ctx d name attrs children key attributes hid ctx' s hc hc' h
    obtain ⟨_, hattr, _⟩ := h.element
    have hid' : (Keyed.get? (transformAttributes b.translation attrs ctx') "templateId").bind Value.display = none := by
      rw [← transformAttributes_congr _ attrs hc hc' hattr]
      exact hid
    rw [bindNode_include_absent b ctx d s name attrs children key hid,
      bindNode_include_absent b ctx' d s name attrs children key hid']
  · intro ctx d name attrs children key attributes id hid hd hlib
    rw [hb] at hlib
    cases hlib
  · intro ctx d name attrs children key attributes id hid hd lib' hlib ih ctx' s hc hc' h
    rw [hb] at hlib
    cases hlib
    obtain ⟨_, hattr, _⟩ := h.element
    have hid' : (Keyed.get? (transformAttributes b.translation attrs ctx') "templateId").bind Value.display = some id := by
      rw [← transformAttributes_congr _ attrs hc hc' hattr]
      exact hid
    rw [bindNode_include_run b ctx d s name attrs children key hb hid hd,
      bindNode_include_run b ctx' d s name attrs children key hb hid' hd]
    obtain ⟨hkeep, hnodes⟩ := lib.resolve_mentions id s
    split
    · next nodes s' hr =>
      have hr1 : ((lib.resolve id).run s).1 = .ok (some nodes) := by rw [hr]
      have hr2 : ((lib.resolve id).run s).2 = s' := by rw [hr]
      rw [ih nodes ctx' s' hc hc' (h.mono fun n hn => .inr (hn.elim (hnodes nodes hr1 n) (hr2 ▸ hkeep n)))]
    · rfl
  · intro ctx d name attrs children key attributes id hid hd ctx' s _ _ _
    rw [bindNode_include_deep b ctx d s name attrs children key (by omega),
      bindNode_include_deep b ctx' d s name attrs children key (by omega)]
  -- `Lang`: the same text, or the children under agreeing contexts
  · intro ctx d name attrs children key attributes k hk ctx' s hc hc' h
    obtain ⟨_, hattr, _⟩ := h.element
    have hk' : (Keyed.get? (transformAttributes b.translation attrs ctx') "text").bind Value.display = some k := by
      rw [← transformAttributes_congr _ attrs hc hc' hattr]
      exact hk
    rw [bindNode_translation_text b ctx d s name attrs children key hk,
      bindNode_translation_text b ctx' d s name attrs children key hk']
  · intro ctx d name attrs children key attributes hk ih ctx' s hc hc' h
    obtain ⟨_, hattr, hchildren⟩ := h.element
    have hk' : (Keyed.get? (transformAttributes b.translation attrs ctx') "text").bind Value.display = none := by
      rw [← transformAttributes_congr _ attrs hc hc' hattr]
      exact hk
    rw [bindNode_translation_children b ctx d s name attrs children key hk,
      bindNode_translation_children b ctx' d s name attrs children key hk', ih ctx' s hc hc' hchildren]
  -- host elements: the same override by the element's name, or the children and the same links
  · intro ctx d name attrs children key f hf ctx' s hc hc' h
    obtain ⟨hname, hattr, _⟩ := h.element
    have hf' : ctx'.override? name = some f := hname.symm.trans hf
    rw [bindNode_tag_override b ctx d s name attrs children key hf,
      bindNode_tag_override b ctx' d s name attrs children key hf', transformAttributes_congr _ attrs hc hc' hattr]
  · intro ctx d name attrs children key hf ih ctx' s hc hc' h
    obtain ⟨hname, hattr, hchildren⟩ := h.element
    have hf' : ctx'.override? name = none := hname.symm.trans hf
    rw [bindNode_tag_plain b ctx d s name attrs children key hf,
      bindNode_tag_plain b ctx' d s name attrs children key hf', ih ctx' s hc hc' hchildren,
      transformAttributes_congr _ attrs hc hc' hattr]
  -- `Data` binds against contexts of its own, the same in both runs: nothing to show
  iterate 7 (intros; exact trivial)
  -- `If`: the same test, then the children under agreeing contexts
  · intro attrs children ctx d subject ha ctx' s _ _ _
    rw [evaluateIf_run, evaluateIf_run, if_neg (by simp [subject] at ha; simp [ha]),
      if_neg (by simp [subject] at ha; simp [ha])]
  · intro attrs children ctx d subject ha hc ih ctx' s hctx hctx' h
    have hcond : isAbsentMarker (Keyed.get? attrs "context") = false ∧
        (Condition.ofAttributes attrs).holds ((Keyed.get? attrs "context").getD .null) = true :=
      ⟨by simpa using ha, hc⟩
    rw [evaluateIf_run, evaluateIf_run, if_pos hcond, if_pos hcond, ih ctx' s hctx hctx' h]
  · intro attrs children ctx d subject ha hc ctx' s _ _ _
    rw [evaluateIf_run, evaluateIf_run, if_neg (fun h' => hc h'.2), if_neg (fun h' => hc h'.2)]

/-- Binding depends only on the context entries the templates refer to. Against two non-empty
contexts with the same entry, value or override, under every name that the nodes or the
library's templates refer to, binding from one session gives the same output and leaves the same
session. The templates are those built from the sources and those the session has recorded; when
the session records only builds of the sources, as every session the engine reaches does, the
built ones are all there are. -/
theorem bind_context_local (hb : b.library = some lib) (ns : List Node) {c c' : Context}
    (hc : c.isEmpty = false) (hc' : c'.isEmpty = false) (s : Session) :
    ((∀ n, NodesMention n ns ∨ lib.Mentions s n → c.get? n = c'.get? n) →
      (b.bind ns c).run s = (b.bind ns c').run s) ∧
    (lib.Records s → (∀ n, NodesMention n ns ∨ lib.BuildsMention n → c.get? n = c'.get? n) →
      (b.bind ns c).run s = (b.bind ns c').run s) := by
  refine ⟨fun h => b.bindNodes_congr hb c 0 ns c' s hc hc' h, fun hrec h => ?_⟩
  exact b.bindNodes_congr hb c 0 ns c' s hc hc'
    (fun n hn => h n (hn.imp_right (Library.buildsMention_of_records hrec)))

end Binder

/-- A paragraph whose class is the `title` of the context. -/
def titledParagraph : Node :=
  .element ⟨"p", .tag, [("className", .string "@data-title")], [.text "x"], 1⟩

theorem titledParagraph_mentions {n : String} (h : titledParagraph.Mentions n) :
    n = "p" ∨ MentionsKey n "className".toList ∨ MentionsKey n "@data-title".toList := by
  cases h with
  | name => exact .inl rfl
  | attr ha hn =>
    simp only [List.mem_singleton] at ha
    subst ha
    rcases hn with hname | ⟨raw, hraw, hvalue⟩
    · exact .inr (.inl hname)
    · cases hraw
      exact .inr (.inr hvalue)
  | child hc hn =>
    simp only [List.mem_singleton] at hc
    subst hc
    cases hn

/-- Against contexts that differ only under `other`, which the paragraph does not refer to, the
paragraph binds alike. -/
theorem titledParagraph_binds_alike :
    (Engine.standard.binder.bind [titledParagraph]
        ((Context.empty.insert "title" (.string "A")).insert "other" (.bool true))).run Session.fresh =
      (Engine.standard.binder.bind [titledParagraph]
        ((Context.empty.insert "title" (.string "A")).insert "other" (.bool false))).run Session.fresh := by
  refine (Binder.bind_context_local Engine.standard.binder rfl [titledParagraph] rfl rfl Session.fresh).2
    (Engine.standard.library.records_fresh) ?_
  intro n hn
  by_cases hother : n = "other"
  · -- `other` is referred to by neither the paragraph nor the engine's (empty) library
    subst hother
    exfalso
    rcases hn with ⟨x, hx, hm⟩ | ⟨_, markup, _, _, hsrc, _⟩
    · rw [List.mem_singleton] at hx
      subst hx
      rcases titledParagraph_mentions hm with h | h | h
      · exact absurd h (by decide)
      · exact absurd (h.mem (show 'o' ∈ "other".toList by decide)) (by decide)
      · exact absurd (h.mem (show 'o' ∈ "other".toList by decide)) (by decide)
    · cases hsrc
  · -- under any other name the two contexts hold the same entry
    rw [Context.get?_insert_ne _ _ hother, Context.get?_insert_ne _ _ hother]

end Stencil
