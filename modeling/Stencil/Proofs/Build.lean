/-
Building over the built-in components. A built-in component has no defaults, so expanding one
keeps the caller's children and mints nothing (`Component.instantiate_bare`), and a raw tag builds
into one element of its own name, keyed first, holding its children built in it
(`Builder.buildNode_tag`). Text standing directly in a table container is dropped, so no
table container of a built tree holds text (`Builder.buildNodes_tables`).
-/
import Stencil.Node.Build
import Mathlib.Tactic.SplitIfs

namespace Stencil

/-! ## Built-in components -/

theorem Component.instantiate_bare (name : String) (kind : Kind) (caller : Element) :
    Component.instantiate ⟨name, kind, [], []⟩ caller =
      pure ⟨name, kind, Keyed.extend [] caller.attributes, caller.children, caller.key⟩ := by
  unfold Component.instantiate
  cases caller.children <;> rfl

theorem Registry.standard_get? {name : String} {c : Component} (h : Registry.standard.get? name = some c) :
    c = ⟨name, c.kind, [], []⟩ := by
  have hstd : Registry.standard.components =
      [("Data", ⟨"Data", .iteration, [], []⟩), ("If", ⟨"If", .conditional, [], []⟩),
        ("Include", ⟨"Include", .include, [], []⟩), ("Lang", ⟨"Lang", .translation, [], []⟩)] :=
    rfl
  simp only [Registry.get?, hstd, Keyed.get?] at h
  split_ifs at h <;> (cases h; subst_vars; rfl)

theorem Component.instantiate_run (c : Component) (caller : Element) (k : Nat) :
    (c.instantiate caller).run k =
      if caller.children.isEmpty then
        (⟨c.name, c.kind, Keyed.extend c.attributes caller.attributes, ((rekeyed c.children).run k).1, caller.key⟩,
          ((rekeyed c.children).run k).2)
      else (⟨c.name, c.kind, Keyed.extend c.attributes caller.attributes, caller.children, caller.key⟩, k) := by
  unfold Component.instantiate
  cases caller.children.isEmpty <;> rfl

/-! ## One raw node -/

section Node

variable (bld : Builder) (parent : Option String) (name data : String) (attrs : List (String × String))
  (children : List Markup.RawNode) (k : Nat)

theorem Builder.buildNode_text :
    ((bld.buildNode parent ⟨.text, name, data, attrs, children⟩).run k).1 =
      if data.isEmpty then none else if parent.any tableContainers.contains then none else some (.text data) := by
  simp only [Builder.buildNode, normalize]
  split_ifs <;> rfl

theorem Builder.buildNode_tag_plain (h : bld.registry.get? name = none) :
    (bld.buildNode parent ⟨.tag, name, data, attrs, children⟩).run k =
      (some (.element ⟨name, .tag, normalizeAttributes bld.translator bld.domain attrs name,
          ((bld.buildNodes (some name) children).run (k + 1)).1, k⟩),
        ((bld.buildNodes (some name) children).run (k + 1)).2) := by
  simp only [Builder.buildNode, normalize, bind_assoc, pure_bind, h]
  rfl

theorem Builder.buildNode_tag_expand {c : Component} (h : bld.registry.get? name = some c) :
    (bld.buildNode parent ⟨.tag, name, data, attrs, children⟩).run k =
      (some (.element ((c.instantiate ⟨name, .tag, normalizeAttributes bld.translator bld.domain attrs name,
          ((bld.buildNodes (some name) children).run (k + 1)).1, k⟩).run
            ((bld.buildNodes (some name) children).run (k + 1)).2).1),
        ((c.instantiate ⟨name, .tag, normalizeAttributes bld.translator bld.domain attrs name,
          ((bld.buildNodes (some name) children).run (k + 1)).1, k⟩).run
            ((bld.buildNodes (some name) children).run (k + 1)).2).2) := by
  simp only [Builder.buildNode, normalize, bind_assoc, pure_bind, h]
  rfl

/-- Over the built-in components a raw tag builds into one element of its name, keyed first,
holding its children built in it. -/
theorem Builder.buildNode_tag (hreg : bld.registry = Registry.standard) :
    ∃ kind attributes, (bld.buildNode parent ⟨.tag, name, data, attrs, children⟩).run k =
      (some (.element ⟨name, kind, attributes, ((bld.buildNodes (some name) children).run (k + 1)).1, k⟩),
        ((bld.buildNodes (some name) children).run (k + 1)).2) := by
  cases hc : bld.registry.get? name with
  | none => exact ⟨.tag, _, Builder.buildNode_tag_plain bld parent name data attrs children k hc⟩
  | some c =>
    -- a built-in has no defaults, so its expansion keeps the built children and mints nothing
    have hbare := Registry.standard_get? (hreg ▸ hc)
    refine ⟨c.kind, Keyed.extend [] (normalizeAttributes bld.translator bld.domain attrs name), ?_⟩
    rw [Builder.buildNode_tag_expand bld parent name data attrs children k hc, hbare,
      Component.instantiate_bare]
    rfl

/-- A raw tag builds into an element of the next key, which an expansion keeps, named by the
component registered under its name, or by the name itself when there is none. -/
theorem Builder.buildNode_tag_element :
    ∃ e, ((bld.buildNode parent ⟨.tag, name, data, attrs, children⟩).run k).1 = some (.element e) ∧
      e.key = k ∧ e.name = ((bld.registry.get? name).map (·.name)).getD name := by
  cases hc : bld.registry.get? name with
  | none => exact ⟨_, by rw [Builder.buildNode_tag_plain bld parent name data attrs children k hc], rfl, rfl⟩
  | some c =>
    refine ⟨_, by rw [Builder.buildNode_tag_expand bld parent name data attrs children k hc], ?_⟩
    rw [Component.instantiate_run]
    split <;> exact ⟨rfl, rfl⟩

theorem Builder.buildNode_nontag_state {kind : Markup.RawKind} (hk : kind ≠ .tag) :
    ((bld.buildNode parent ⟨kind, name, data, attrs, children⟩).run k).2 = k := by
  cases kind with
  | tag => exact absurd rfl hk
  | text =>
    simp only [Builder.buildNode, normalize]
    split_ifs <;> rfl
  | _ => rfl

theorem Builder.buildNode_other {kind : Markup.RawKind} (ht : kind ≠ .text) (hg : kind ≠ .tag) :
    ((bld.buildNode parent ⟨kind, name, data, attrs, children⟩).run k).1 = none := by
  cases kind <;> first | exact absurd rfl ht | exact absurd rfl hg | rfl

end Node

theorem Builder.buildNodes_cons_run (bld : Builder) (parent : Option String) (r : Markup.RawNode)
    (rs : List Markup.RawNode) (k : Nat) :
    ((bld.buildNodes parent (r :: rs)).run k).1 =
      match ((bld.buildNode parent r).run k).1 with
      | some n => n :: ((bld.buildNodes parent rs).run ((bld.buildNode parent r).run k).2).1
      | none => ((bld.buildNodes parent rs).run ((bld.buildNode parent r).run k).2).1 := by
  simp only [Builder.buildNodes, StateT.run_bind, StateT.run_pure]
  rfl

/-! ## Table containers hold no text -/

/-- Every element of a tree passes `P`. -/
inductive Node.Everywhere (P : Element → Prop) : Node → Prop
  | text (t : String) : Everywhere P (.text t)
  | element {e : Element} (here : P e) (inChildren : ∀ c ∈ e.children, Everywhere P c) :
      Everywhere P (.element e)

/-- Whether a node is text. -/
def Node.isText : Node → Bool
  | .text _ => true
  | .element _ => false

/-- A table container holds no text. -/
def Element.NoTableText (e : Element) : Prop :=
  e.name ∈ tableContainers → ∀ c ∈ e.children, c.isText = false

/-- No table container of a built tree holds text, and no text is built directly in one. By the
builder's own induction: text in a table container is dropped, and an element's children are
built in it. -/
theorem Builder.buildNodes_tables (bld : Builder) (hreg : bld.registry = Registry.standard) :
    ∀ parent rs k, ∀ x ∈ ((bld.buildNodes parent rs).run k).1,
      x.Everywhere Element.NoTableText ∧ (parent.any tableContainers.contains → x.isText = false) := by
  apply Builder.buildNodes.induct
    (fun parent rs => ∀ k, ∀ x ∈ ((bld.buildNodes parent rs).run k).1,
      x.Everywhere Element.NoTableText ∧ (parent.any tableContainers.contains → x.isText = false))
    (fun parent r => ∀ k x, ((bld.buildNode parent r).run k).1 = some x →
      x.Everywhere Element.NoTableText ∧ (parent.any tableContainers.contains → x.isText = false))
  · -- one raw node: text survives only outside table containers; a tag holds what it builds
    intro parent kind name data attrs children ih k x hx
    by_cases hkt : kind = .text
    · subst hkt
      rw [Builder.buildNode_text] at hx
      split_ifs at hx with hempty htable
      cases hx
      exact ⟨.text data, fun h => absurd h htable⟩
    · by_cases hkg : kind = .tag
      · subst hkg
        obtain ⟨kind', attributes, hrun⟩ := bld.buildNode_tag parent name data attrs children k hreg
        rw [hrun] at hx
        cases hx
        have hbuilt := ih (k + 1)
        refine ⟨.element (fun htab c hc => (hbuilt c hc).2 (by simpa using htab)) fun c hc => (hbuilt c hc).1,
          fun _ => rfl⟩
      · rw [bld.buildNode_other parent name data attrs children k hkt hkg] at hx
        cases hx
  · intro parent k x hx
    exact absurd hx List.not_mem_nil
  · -- a list: the first node's result, if any, before the rest's
    intro parent r rs ihr ihrs k x hx
    rw [Builder.buildNodes_cons_run] at hx
    split at hx
    · next n hn =>
      rcases List.mem_cons.1 hx with rfl | hx
      · exact ihr k x hn
      · exact ihrs _ x hx
    · exact ihrs _ x hx

end Stencil
