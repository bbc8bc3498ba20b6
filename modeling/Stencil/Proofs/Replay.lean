/-
Rendering again. Run a second time from the session its first run left, a render answers as the
first did, up to the serials of the click handlers it mints afresh, and changes nothing but the
handler counter (`Engine.render_again`). A run replays (`Library.Replays`) when, run again from
any session whose records grow those it left, it answers alike and changes only the handler
counter: a resolve replays, since what the first run built is recorded and what it could not build
fails again (`Library.resolve_replay`), and so, branch by branch over the same nodes, does binding
(`Binder.bindNodes_replay`). Along the way keys are minted only by building templates that were
not recorded (`Library.Follows`).
-/
import Stencil.Proofs.Memo

namespace Stencil

/-! ## Outputs up to handler serials -/

/-- A value with a handler's serial forgotten: what remains is what the handler does. -/
def Value.withoutSerial : Value → Value
  | .handler h => .handler ⟨0, h.action⟩
  | v => v

/-- Attributes with the serial of every handler they hold forgotten. -/
def Attributes.withoutSerials (attrs : Attributes) : Attributes :=
  attrs.map fun e => (e.1, e.2.withoutSerial)

mutual
/-- An output with the serials of the handlers on its elements forgotten. -/
def Rendered.withoutSerials : Rendered → Rendered
  | .element name key attributes children =>
    .element name key (Attributes.withoutSerials attributes) (Rendered.withoutSerialsList children)
  | .fragment items => .fragment (Rendered.withoutSerialsList items)
  | r => r

/-- Outputs with the serials of their handlers forgotten. -/
def Rendered.withoutSerialsList : List Rendered → List Rendered
  | [] => []
  | r :: rs => r.withoutSerials :: Rendered.withoutSerialsList rs
end

theorem Attributes.withoutSerials_insert (attrs : Attributes) (k : String) (v : Value) :
    Attributes.withoutSerials (Keyed.insert attrs k v) =
      Keyed.insert (Attributes.withoutSerials attrs) k v.withoutSerial := by
  induction attrs with
  | nil => rfl
  | cons e rest ih =>
    obtain ⟨k', v'⟩ := e
    by_cases h1 : k < k'
    · simp [Keyed.insert, h1, Attributes.withoutSerials]
    · by_cases h2 : k = k'
      · simp [Keyed.insert, h2, Attributes.withoutSerials]
      · simp only [Attributes.withoutSerials] at ih
        simp [Keyed.insert, h1, h2, Attributes.withoutSerials, ih]

theorem Binder.linkAttributes_cases (b : Binder) (name : String) (attrs : Attributes) :
    (∀ s, (b.linkAttributes name attrs).run s = (attrs, s)) ∨
    ∃ a, ∀ s, (b.linkAttributes name attrs).run s =
      (Keyed.insert attrs "onClick" (.handler ⟨s.nextHandler, a⟩), { s with nextHandler := s.nextHandler + 1 }) := by
  unfold Binder.linkAttributes
  split
  · split
    · split
      · exact .inl fun _ => rfl
      · rename_i url _ _
        exact .inr ⟨.navigate url, fun _ => rfl⟩
    · exact .inl fun _ => rfl
  · exact .inl fun _ => rfl

/-- The link rewrite from two sessions gives the same attributes up to the handler's serial, and
changes only the handler counter. -/
theorem Binder.linkAttributes_replay (b : Binder) (name : String) (attrs : Attributes) (s t : Session) :
    Attributes.withoutSerials ((b.linkAttributes name attrs).run t).1 =
        Attributes.withoutSerials ((b.linkAttributes name attrs).run s).1 ∧
      ∃ n, ((b.linkAttributes name attrs).run t).2 = { t with nextHandler := n } := by
  rcases b.linkAttributes_cases name attrs with h | ⟨a, h⟩
  · rw [h, h]
    exact ⟨rfl, t.nextHandler, rfl⟩
  · rw [h, h]
    exact ⟨by simp [Attributes.withoutSerials_insert, Value.withoutSerial], _, rfl⟩

/-! ## Runs that replay -/

namespace Library

variable (lib : Library)

/-- `m` run from `s` replays: run again from any session whose records grow those the run from
`s` left, it answers the same under `view` and changes nothing but the handler counter. -/
def Replays {β γ : Type} (view : β → γ) (m : Rendering β) (s : Session) : Prop :=
  ∀ t, lib.Grows (m.run s).2.built t.built →
    view (m.run t).1 = view (m.run s).1 ∧ ∃ n, (m.run t).2 = { t with nextHandler := n }

variable {lib}

theorem replays_of_const {β γ : Type} {view : β → γ} {m : Rendering β} {x : β} (h : ∀ u, m.run u = (x, u))
    (s : Session) : lib.Replays view m s := by
  intro t _
  rw [h t, h s]
  exact ⟨rfl, t.nextHandler, rfl⟩

theorem replays_congr {β γ : Type} {view : β → γ} {m m' : Rendering β} (h : ∀ u, m.run u = m'.run u)
    {s : Session} (hm' : lib.Replays view m' s) : lib.Replays view m s := by
  intro t hg
  rw [h, h]
  rw [h] at hg
  exact hm' t hg

theorem replays_fragment {m : Rendering Rendered} {k : Rendering (List Rendered)}
    (h : ∀ u, m.run u = (.fragment (k.run u).1, (k.run u).2)) {s : Session}
    (hk : lib.Replays Rendered.withoutSerialsList k s) : lib.Replays Rendered.withoutSerials m s := by
  intro t hg
  rw [h] at hg
  rw [h, h]
  obtain ⟨hout, n, hn⟩ := hk t hg
  exact ⟨by simp only [Rendered.withoutSerials, hout], n, hn⟩

theorem replays_cons {m : Rendering Rendered} {k : Rendering (List Rendered)} {s : Session}
    (hm : lib.Replays Rendered.withoutSerials m s) (hk : lib.Replays Rendered.withoutSerialsList k (m.run s).2)
    (hgrow : lib.Grows (m.run s).2.built (k.run (m.run s).2).2.built) {t : Session}
    (hg : lib.Grows (k.run (m.run s).2).2.built t.built) :
    Rendered.withoutSerialsList ((m.run t).1 :: (k.run (m.run t).2).1) =
        Rendered.withoutSerialsList ((m.run s).1 :: (k.run (m.run s).2).1) ∧
      ∃ n, (k.run (m.run t).2).2 = { t with nextHandler := n } := by
  obtain ⟨hhead, n₁, hn₁⟩ := hm t (hgrow.trans hg)
  -- the second run of the list starts where the head left it, with the same records as `t`
  have hg' : lib.Grows (k.run (m.run s).2).2.built (m.run t).2.built := by
    rw [hn₁]
    exact hg
  obtain ⟨htail, n₂, hn₂⟩ := hk _ hg'
  refine ⟨by simp only [Rendered.withoutSerialsList, hhead, htail], n₂, ?_⟩
  rw [hn₂, hn₁]

theorem mapM_replays {α : Type} (f : α → Rendering Rendered)
    (hgrow : ∀ x u, lib.Grows u.built ((f x).run u).2.built)
    (hf : ∀ x u, lib.Replays Rendered.withoutSerials (f x) u) :
    ∀ (xs : List α) (s : Session), lib.Replays Rendered.withoutSerialsList (xs.mapM f) s
  | [], s => replays_of_const (fun u => run_mapM_nil f u) s
  | x :: xs, s => by
    intro t hg
    rw [run_mapM_cons] at hg ⊢
    rw [run_mapM_cons]
    exact replays_cons (hf x s) (mapM_replays f hgrow hf xs _)
      (run_mapM_preserves (fun u => lib.Grows ((f x).run s).2.built u.built) f
        (fun y u h => h.trans (hgrow y u)) xs _ (Grows.refl _)) hg

/-! ## Keys minted only by builds -/

/-- Session `u` follows `s` by resolving: the records grew by builds of the sources, and keys were
minted only if a template not recorded at `s` was built and recorded. -/
structure Follows (lib : Library) (s u : Session) : Prop where
  grows : lib.Grows s.built u.built
  mints : u.nextKey = s.nextKey ∨ ∃ id, Keyed.get? s.built id = none ∧ (Keyed.get? u.built id).isSome

theorem Follows.refl (s : Session) : lib.Follows s s :=
  ⟨Grows.refl _, .inl rfl⟩

/-- A resolve keeps a session following `s`: a key it mints belongs to the build it records, of an
id recorded neither before it nor at `s`. -/
theorem Follows.resolve {s u : Session} (h : lib.Follows s u) (id : String) :
    lib.Follows s ((lib.resolve id).run u).2 := by
  rcases lib.resolve_cases id u with ⟨t, -, hr⟩ | ⟨r, hr, -⟩ | ⟨markup, m, hnone, hsrc, hbuild, hr⟩
  · rw [hr]; exact h
  · rw [hr]; exact h
  · rw [hr]
    refine ⟨h.grows.trans (Grows.insert hnone ⟨markup, m, hsrc, hbuild⟩ _), .inr ⟨id, ?_, ?_⟩⟩
    · cases hs : Keyed.get? s.built id with
      | none => rfl
      | some x =>
        rw [h.grows.keeps id x hs] at hnone
        cases hnone
    · show (Keyed.get? (Keyed.insert u.built id _) id).isSome = true
      rw [Keyed.get?_insert_self]
      rfl

end Library

/-! ## Binding replays -/

namespace Binder

variable (b : Binder) {lib : Library}

theorem bindNodes_follows (hb : b.library = some lib) (s : Session) :
    ∀ ctx d ns u, lib.Follows s u → lib.Follows s ((b.bindNodes ctx d ns).run u).2 :=
  b.bindNodes_preserves (lib.Follows s)
    (fun lib' hlib' id u h => by
      rw [hb] at hlib'
      cases hlib'
      exact h.resolve id)
    (fun _ _ h => ⟨h.grows, h.mints⟩)

theorem bindNodes_grows (hb : b.library = some lib) (ctx : Context) (d : Nat) (ns : List Node) (s : Session) :
    lib.Grows s.built ((b.bindNodes ctx d ns).run s).2.built :=
  (b.bindNodes_follows hb s ctx d ns s (Library.Follows.refl s)).grows

/-- Binding replays: run again from a session whose records grow those its first run left, it
gives the same outputs up to handler serials and changes only the handler counter. By the
binder's own induction: every branch is taken again, since the attributes, the context and the
answers of resolving are the same; what binding a list or an item leaves grows to what the
whole run leaves, so each part replays in turn; the link rewrite is the one step whose answer
differs, by the serial of the handler it mints. -/
theorem bindNodes_replay (hb : b.library = some lib) :
    ∀ ctx d ns s, lib.Replays Rendered.withoutSerialsList (b.bindNodes ctx d ns) s := by
  intro ctx d ns
  apply bindNodes.induct b (fun ctx d ns => ∀ s, lib.Replays Rendered.withoutSerialsList (b.bindNodes ctx d ns) s)
    (fun ctx d n => ∀ s, lib.Replays Rendered.withoutSerials (b.bindNode ctx d n) s)
    (fun children value d => ∀ s, lib.Replays Rendered.withoutSerials (b.iterate children value d) s)
    (fun attrs children ctx d => ∀ s, lib.Replays Rendered.withoutSerials (b.evaluateIf attrs children ctx d) s)
  · intro ctx d s
    exact Library.replays_of_const (fun u => bindNodes_nil_run b ctx d u) s
  · intro ctx d n ns ihn ihns s t hg
    simp only [bindNodes_cons_run] at hg ⊢
    exact Library.replays_cons (ihn s) (ihns _) (b.bindNodes_grows hb ctx d ns _) hg
  · intro ctx d text s
    exact Library.replays_of_const (fun u => bindNode_text_run b ctx d u text) s
  · intro ctx d name attrs children key s
    exact Library.replays_of_const (fun u => bindNode_component_run b ctx d u name attrs children key) s
  · intro ctx d name attrs children key attributes ih s
    exact Library.replays_congr (fun u => bindNode_conditional_run b ctx d u name attrs children key) (ih s)
  · intro ctx d name attrs children key attributes ih s
    exact Library.replays_congr (fun u => bindNode_iteration_run b ctx d u name attrs children key) (ih s)
  -- `Include`: resolving replays, and so does binding what it resolved
  · intro ctx d name attrs children key attributes hid s
    exact Library.replays_of_const (fun u => bindNode_include_absent b ctx d u name attrs children key hid) s
  · intro ctx d name attrs children key attributes id hid hd hlib s
    exact Library.replays_of_const (fun u => bindNode_include_nolibrary b ctx d u name attrs children key hlib) s
  · intro ctx d name attrs children key attributes id hid hd lib' hlib ih s t hg
    rw [hb] at hlib
    cases hlib
    rw [bindNode_include_run b ctx d s name attrs children key hb hid hd] at hg ⊢
    rw [bindNode_include_run b ctx d t name attrs children key hb hid hd]
    rcases hr : (lib.resolve id).run s with ⟨_ | _ | nodes, s'⟩
    · rw [hr] at hg
      rw [lib.resolve_replay id s hr hg]
      exact ⟨rfl, t.nextHandler, rfl⟩
    · rw [hr] at hg
      rw [lib.resolve_replay id s hr hg]
      exact ⟨rfl, t.nextHandler, rfl⟩
    · rw [hr] at hg
      -- the first run's records after binding the template grow those the resolve left
      have hgrow := (b.bindNodes_grows hb ctx (d + 1) nodes s').trans hg
      rw [lib.resolve_replay id s hr hgrow]
      obtain ⟨hout, n, hn⟩ := ih nodes s' t hg
      exact ⟨by simp only [Rendered.withoutSerials, hout], n, hn⟩
  · intro ctx d name attrs children key attributes id hid hd s
    exact Library.replays_of_const
      (fun u => bindNode_include_deep b ctx d u name attrs children key (by omega)) s
  -- `Lang`: a translated text, or its children in a fragment
  · intro ctx d name attrs children key attributes k hk s
    exact Library.replays_of_const (fun u => bindNode_translation_text b ctx d u name attrs children key hk) s
  · intro ctx d name attrs children key attributes hk ih s
    exact Library.replays_fragment (fun u => bindNode_translation_children b ctx d u name attrs children key hk) (ih s)
  -- host elements: an override's output, or the children, then the link rewrite
  · intro ctx d name attrs children key f hf s
    exact Library.replays_of_const (fun u => bindNode_tag_override b ctx d u name attrs children key hf) s
  · intro ctx d name attrs children key hf ih s t hg
    rw [bindNode_tag_plain b ctx d s name attrs children key hf] at hg ⊢
    rw [bindNode_tag_plain b ctx d t name attrs children key hf]
    -- the link rewrite records nothing, so the children's run left the records of the whole run
    obtain ⟨-, n₀, hn₀⟩ := b.linkAttributes_replay name (transformAttributes b.translation attrs ctx)
      ((b.bindNodes ctx d children).run s).2 ((b.bindNodes ctx d children).run s).2
    rw [hn₀] at hg
    obtain ⟨hout, n₁, hn₁⟩ := ih s t hg
    obtain ⟨hattrs, n₂, hn₂⟩ := b.linkAttributes_replay name (transformAttributes b.translation attrs ctx)
      ((b.bindNodes ctx d children).run s).2 ((b.bindNodes ctx d children).run t).2
    refine ⟨by simp only [Rendered.withoutSerials, hout, hattrs], n₂, ?_⟩
    rw [hn₂, hn₁]
  -- `Data` over a list, a map, or anything else
  · intro children d items he s
    exact Library.replays_of_const (fun u => by rw [iterate_list_run, if_pos he]) s
  · intro children d items he ih s
    refine Library.replays_fragment (fun u => by rw [iterate_list_run, if_neg he]) ?_
    exact Library.mapM_replays _
      (fun item u => by
        simp only [StateT.run_bind, StateT.run_pure]
        exact b.bindNodes_grows hb _ d children u)
      (fun item u => Library.replays_fragment (fun v => by simp only [StateT.run_bind, StateT.run_pure]; rfl)
        (ih item u)) items s
  · intro children d entries he s
    exact Library.replays_of_const (fun u => by rw [iterate_map_run, if_pos he]) s
  · intro children d entries he ih s
    refine Library.replays_fragment (fun u => by rw [iterate_map_run, if_neg he]) ?_
    exact Library.mapM_replays _
      (fun entry u => by
        simp only [StateT.run_bind, StateT.run_pure]
        exact b.bindNodes_grows hb _ d children u)
      (by
        rintro ⟨k, v⟩ u
        exact Library.replays_fragment (fun w => by simp only [StateT.run_bind, StateT.run_pure]; rfl)
          (ih k v u)) entries s
  · intro children other d v hc hl hm ih s
    exact Library.replays_fragment
      (fun u => by rw [iterate_other_run b d u children other hl hm, if_neg (by simpa using hc)]) (ih s)
  · intro children other d v hc hn hl hm s
    exact Library.replays_of_const
      (fun u => by rw [iterate_other_run b d u children other hl hm, if_pos (by simpa using hc), if_pos hn]) s
  · intro children other d v hc hn hl hm s
    exact Library.replays_of_const
      (fun u => by rw [iterate_other_run b d u children other hl hm, if_pos (by simpa using hc), if_neg hn]) s
  -- `If`: nothing, or its children in a fragment
  · intro attrs children ctx d subject ha s
    exact Library.replays_of_const (fun u => by rw [evaluateIf_run, if_neg (by simp [subject] at ha; simp [ha])]) s
  · intro attrs children ctx d subject ha hc ih s
    exact Library.replays_fragment (fun u => by rw [evaluateIf_run, if_pos ⟨by simpa using ha, hc⟩]) (ih s)
  · intro attrs children ctx d subject ha hc s
    exact Library.replays_of_const (fun u => by rw [evaluateIf_run, if_neg (fun h' => hc h'.2)]) s

end Binder

/-! ## Rendering again -/

namespace Engine

variable (e : Engine) (id : String) (ctx : Context)

theorem render_run :
    e.render id ctx =
      match (e.library.resolveOr (some id) e.defaultTemplateId).run e.session with
      | (.ok (some nodes), s) =>
        (.ok ((e.binder.bind nodes ctx).run s).1, { e with session := ((e.binder.bind nodes ctx).run s).2 })
      | (.ok none, s) => (.error (.unresolved id), { e with session := s })
      | (.error err, s) => (.error err, { e with session := s }) := by
  simp only [render, renderElement, run, Option.getD_none, StateT.run_bind]
  rcases (e.library.resolveOr (some id) e.defaultTemplateId).run e.session with ⟨_ | _ | _, s'⟩ <;> rfl

@[simp] theorem withSession_library (s : Session) : ({ e with session := s } : Engine).library = e.library := rfl

@[simp] theorem withSession_binder (s : Session) : ({ e with session := s } : Engine).binder = e.binder := rfl

/-- Rendering again, from the engine a render left, answers as that render did, up to the serials
of the click handlers it mints afresh, and changes nothing but the handler counter: not the
recorded templates, not the key counter. The first render minted keys only in building a template
that was not recorded before. -/
theorem render_again :
    ((e.render id ctx).2.render id ctx).1.map Rendered.withoutSerialsList =
        (e.render id ctx).1.map Rendered.withoutSerialsList ∧
      ((e.render id ctx).2.render id ctx).2 = { (e.render id ctx).2 with
        session := { (e.render id ctx).2.session with
          nextHandler := ((e.render id ctx).2.render id ctx).2.session.nextHandler } } ∧
      ((e.render id ctx).2.session.nextKey = e.session.nextKey ∨
        ∃ id', Keyed.get? e.session.built id' = none ∧ (Keyed.get? (e.render id ctx).2.session.built id').isSome) := by
  have hb : e.binder.library = some e.library := rfl
  rcases hr : (e.library.resolveOr (some id) e.defaultTemplateId).run e.session with ⟨r, s₁⟩
  -- resolving follows the session the render started from
  have hfollows : e.library.Follows e.session s₁ := by
    have h := e.library.resolveOr_preserves e.session (e.library.Follows e.session) (fun i u h => h.resolve i)
      (some id) e.defaultTemplateId (Library.Follows.refl _)
    rwa [hr] at h
  rcases r with err | _ | nodes
  · rw [render_run e, hr]
    dsimp only
    rw [render_run]
    simp only [withSession_library]
    rw [e.library.resolveOr_replay e.session (some id) e.defaultTemplateId hr (Library.Grows.refl _)]
    exact ⟨rfl, rfl, hfollows.mints⟩
  · rw [render_run e, hr]
    dsimp only
    rw [render_run]
    simp only [withSession_library]
    rw [e.library.resolveOr_replay e.session (some id) e.defaultTemplateId hr (Library.Grows.refl _)]
    exact ⟨rfl, rfl, hfollows.mints⟩
  · rw [render_run e, hr]
    dsimp only
    -- the template resolves again from the records binding left, and binding it replays
    have hgrow : e.library.Grows s₁.built ((e.binder.bind nodes ctx).run s₁).2.built :=
      e.binder.bindNodes_grows hb ctx 0 nodes s₁
    obtain ⟨hout, n, hn⟩ := e.binder.bindNodes_replay hb ctx 0 nodes s₁ _ (Library.Grows.refl _)
    have hlast : e.library.Follows e.session ((e.binder.bind nodes ctx).run s₁).2 :=
      e.binder.bindNodes_follows hb e.session ctx 0 nodes s₁ hfollows
    rw [render_run]
    simp only [withSession_library, withSession_binder]
    rw [e.library.resolveOr_replay e.session (some id) e.defaultTemplateId hr hgrow]
    refine ⟨?_, ?_, hlast.mints⟩
    · simp only [Except.map, Binder.bind]
      rw [hout]
    · simp only [Binder.bind] at hn ⊢
      rw [hn]

end Engine

end Stencil
