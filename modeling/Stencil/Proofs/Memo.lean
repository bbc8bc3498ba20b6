/-
The template records of a session are a write-once memo of the library's builds. A resolve that
finds a record answers it and changes nothing, whatever the sources and the builder; one that
finds none records the build of the id's source, from the next key, when the source builds, and
touches no other record; a missing source or a source that does not build records nothing and
mints nothing. So over every sequence of calls the records only grow, by builds of sources
(`Library.Grows`), an entry once set is never replaced, and `resolveOr` falls back exactly when
its first id answers `none` (`Library.calls_write_once`). A resolve run again from records that
grew answers as before (`Library.resolve_replay`), which rendering again rests on.
-/
import Stencil.Proofs.Binding
import Stencil.Engine

namespace Stencil

namespace Library

variable (lib : Library)

/-- The library builds `id`: the id has a source, and the source reads. -/
def Builds (id : String) : Prop :=
  ∃ markup m, Keyed.get? lib.sources id = some markup ∧ lib.builder.build markup = .ok m

/-- Records `r'` grow records `r`: every record of `r` stands in `r'` unchanged, and every record
that `r'` adds is of an id the library builds. -/
structure Grows (r r' : List (String × List Node)) : Prop where
  keeps : ∀ id t, Keyed.get? r id = some t → Keyed.get? r' id = some t
  adds : ∀ id t, Keyed.get? r id = none → Keyed.get? r' id = some t → lib.Builds id

variable {lib}

theorem not_builds_of_no_source {id : String} (h : Keyed.get? lib.sources id = none) : ¬ lib.Builds id := by
  rintro ⟨_, _, hsrc, -⟩
  rw [h] at hsrc
  cases hsrc

theorem not_builds_of_fault {id markup : String} {f : Markup.Fault} (hsrc : Keyed.get? lib.sources id = some markup)
    (hf : lib.builder.build markup = .error f) : ¬ lib.Builds id := by
  rintro ⟨markup', m, hsrc', hbuild⟩
  rw [hsrc] at hsrc'
  cases hsrc'
  rw [hf] at hbuild
  cases hbuild

namespace Grows

variable {r r' r'' : List (String × List Node)}

theorem refl (r : List (String × List Node)) : lib.Grows r r :=
  ⟨fun _ _ h => h, fun _ _ h h' => by rw [h] at h'; cases h'⟩

theorem trans (h : lib.Grows r r') (h' : lib.Grows r' r'') : lib.Grows r r'' := by
  refine ⟨fun id t ht => h'.keeps id t (h.keeps id t ht), fun id t hnone ht => ?_⟩
  -- a record new in `r''` was added by the first step or by the second
  cases hmid : Keyed.get? r' id with
  | none => exact h'.adds id t hmid ht
  | some u => exact h.adds id u hnone hmid

theorem absent (h : lib.Grows r r') {id : String} (hnone : Keyed.get? r id = none) (hb : ¬ lib.Builds id) :
    Keyed.get? r' id = none := by
  cases ht : Keyed.get? r' id with
  | none => rfl
  | some t => exact absurd (h.adds id t hnone ht) hb

theorem insert {id : String} (hnone : Keyed.get? r id = none) (hb : lib.Builds id) (t : List Node) :
    lib.Grows r (Keyed.insert r id t) := by
  refine ⟨fun j u hj => ?_, fun j u hj hj' => ?_⟩
  · have hji : j ≠ id := by
      rintro rfl
      rw [hnone] at hj
      cases hj
    rwa [Keyed.get?_insert_other _ _ _ _ hji]
  · by_cases hji : j = id
    · exact hji ▸ hb
    · rw [Keyed.get?_insert_other _ _ _ _ hji, hj] at hj'
      cases hj'

end Grows

theorem Records.unrecorded {s : Session} (h : lib.Records s) {id : String} (hb : ¬ lib.Builds id) :
    Keyed.get? s.built id = none := by
  cases ht : Keyed.get? s.built id with
  | none => rfl
  | some t =>
    obtain ⟨markup, m, -, hsrc, hbuild, -⟩ := h id t ht
    exact absurd ⟨markup, m, hsrc, hbuild⟩ hb

/-! ## One resolve -/

variable (lib) (id : String) (s : Session)

theorem resolve_grows : lib.Grows s.built ((lib.resolve id).run s).2.built := by
  rcases lib.resolve_cases id s with ⟨t, -, hr⟩ | ⟨r, hr, -⟩ | ⟨markup, m, hnone, hsrc, hbuild, hr⟩
  · rw [hr]; exact Grows.refl _
  · rw [hr]; exact Grows.refl _
  · rw [hr]; exact Grows.insert hnone ⟨markup, m, hsrc, hbuild⟩ _

theorem resolve_other {j : String} (hj : j ≠ id) :
    Keyed.get? ((lib.resolve id).run s).2.built j = Keyed.get? s.built j := by
  rcases lib.resolve_cases id s with ⟨t, -, hr⟩ | ⟨r, hr, -⟩ | ⟨markup, m, -, -, -, hr⟩
  · rw [hr]
  · rw [hr]
  · rw [hr]
    exact Keyed.get?_insert_other _ _ _ _ hj

/-- A resolve of an unrecorded id records it exactly when the library builds it. -/
theorem resolve_records_iff_builds (hnone : Keyed.get? s.built id = none) :
    (Keyed.get? ((lib.resolve id).run s).2.built id).isSome ↔ lib.Builds id := by
  constructor
  · intro h
    obtain ⟨t, ht⟩ := Option.isSome_iff_exists.1 h
    exact (lib.resolve_grows id s).adds id t hnone ht
  · rintro ⟨markup, m, hsrc, hbuild⟩
    rw [resolve_build lib id s hnone hsrc hbuild, Keyed.get?_insert_self]
    rfl

theorem resolve_no_source (h : lib.Records s) (hsrc : Keyed.get? lib.sources id = none) :
    (lib.resolve id).run s = (.ok none, s) :=
  resolve_unknown lib id s (h.unrecorded (not_builds_of_no_source hsrc)) hsrc

theorem resolve_unbuildable (h : lib.Records s) {markup : String} {f : Markup.Fault}
    (hsrc : Keyed.get? lib.sources id = some markup) (hf : lib.builder.build markup = .error f) :
    (lib.resolve id).run s = (.error (.templateMarkup id f), s) :=
  resolve_fault lib id s (h.unrecorded (not_builds_of_fault hsrc hf)) hsrc hf

theorem resolve_none_run (h : ((lib.resolve id).run s).1 = .ok none) : (lib.resolve id).run s = (.ok none, s) := by
  rcases lib.resolve_cases id s with ⟨t, -, hr⟩ | ⟨r, hr, -⟩ | ⟨markup, m, -, -, -, hr⟩
  · rw [hr] at h; cases h
  · rw [hr] at h ⊢
    cases h
    rfl
  · rw [hr] at h; cases h

/-- A resolve run again, from a session whose records grow those its first run left, answers as
the first run did and changes nothing: what the first run recorded is found, and what it did not
record it could not build. -/
theorem resolve_replay {s' t : Session} {r : Except Error (Option (List Node))}
    (hr : (lib.resolve id).run s = (r, s')) (hg : lib.Grows s'.built t.built) :
    (lib.resolve id).run t = (r, t) := by
  cases hrec : Keyed.get? s.built id with
  | some x =>
    rw [resolve_cached lib id s hrec, Prod.mk.injEq] at hr
    obtain ⟨rfl, rfl⟩ := hr
    exact resolve_cached lib id t (hg.keeps id x hrec)
  | none =>
    cases hsrc : Keyed.get? lib.sources id with
    | none =>
      rw [resolve_unknown lib id s hrec hsrc, Prod.mk.injEq] at hr
      obtain ⟨rfl, rfl⟩ := hr
      exact resolve_unknown lib id t (hg.absent hrec (not_builds_of_no_source hsrc)) hsrc
    | some markup =>
      cases hbuild : lib.builder.build markup with
      | error f =>
        rw [resolve_fault lib id s hrec hsrc hbuild, Prod.mk.injEq] at hr
        obtain ⟨rfl, rfl⟩ := hr
        exact resolve_fault lib id t (hg.absent hrec (not_builds_of_fault hsrc hbuild)) hsrc hbuild
      | ok m =>
        -- the first run recorded its build, and the later records keep it
        rw [resolve_build lib id s hrec hsrc hbuild, Prod.mk.injEq] at hr
        obtain ⟨rfl, rfl⟩ := hr
        exact resolve_cached lib id t (hg.keeps id _ (Keyed.get?_insert_self _ _ _))

/-! ## Resolving with a fallback -/

theorem resolveOr_none_run (fallback : String) : (lib.resolveOr none fallback).run s = (lib.resolve fallback).run s :=
  rfl

theorem resolveOr_some_run (i fallback : String) :
    (lib.resolveOr (some i) fallback).run s =
      match (lib.resolve i).run s with
      | (.ok none, s') => (lib.resolve fallback).run s'
      | (r, s') => (r, s') := by
  simp only [resolveOr, StateT.run_bind]
  rcases (lib.resolve i).run s with ⟨_ | _ | _, s'⟩ <;> rfl

theorem resolveOr_fallback {i : String} (fallback : String) (h : ((lib.resolve i).run s).1 = .ok none) :
    (lib.resolveOr (some i) fallback).run s = (lib.resolve fallback).run s := by
  rw [resolveOr_some_run, resolve_none_run lib i s h]

theorem resolveOr_first {i : String} (fallback : String) (h : ((lib.resolve i).run s).1 ≠ .ok none) :
    (lib.resolveOr (some i) fallback).run s = (lib.resolve i).run s := by
  rw [resolveOr_some_run]
  rcases hr : (lib.resolve i).run s with ⟨_ | _ | _, s'⟩
  · rfl
  · rw [hr] at h
    exact absurd rfl h
  · rfl

theorem resolveOr_preserves (P : Session → Prop) (hres : ∀ id u, P u → P ((lib.resolve id).run u).2)
    (i : Option String) (fallback : String) (h : P s) : P ((lib.resolveOr i fallback).run s).2 := by
  cases i with
  | none => exact hres fallback s h
  | some i =>
    have h1 := hres i s h
    rw [resolveOr_some_run]
    split
    · next s' hr =>
      rw [hr] at h1
      exact hres fallback s' h1
    · next r s' _ hr =>
      rwa [hr] at h1

theorem resolveOr_grows (i : Option String) (fallback : String) :
    lib.Grows s.built ((lib.resolveOr i fallback).run s).2.built :=
  lib.resolveOr_preserves s (fun u => lib.Grows s.built u.built) (fun id u h => h.trans (lib.resolve_grows id u))
    i fallback (Grows.refl _)

/-- `resolveOr` run again, from a session whose records grow those its first run left, answers as
the first run did and changes nothing. -/
theorem resolveOr_replay (i : Option String) (fallback : String) {s' t : Session}
    {r : Except Error (Option (List Node))} (hr : (lib.resolveOr i fallback).run s = (r, s'))
    (hg : lib.Grows s'.built t.built) : (lib.resolveOr i fallback).run t = (r, t) := by
  cases i with
  | none => exact lib.resolve_replay fallback s hr hg
  | some i =>
    by_cases hnone : ((lib.resolve i).run s).1 = .ok none
    · -- the first id answered `none` from `s` and answers so again; the fallback replays
      rw [resolveOr_fallback lib s fallback hnone] at hr
      have hgrow : lib.Grows s.built t.built := by
        have h := lib.resolve_grows fallback s
        rw [hr] at h
        exact h.trans hg
      have hfirst := lib.resolve_replay i s (resolve_none_run lib i s hnone) hgrow
      rw [resolveOr_some_run, hfirst]
      exact lib.resolve_replay fallback s hr hg
    · rw [resolveOr_first lib s fallback hnone] at hr
      have hfirst := lib.resolve_replay i s hr hg
      have hnone' : ((lib.resolve i).run t).1 ≠ .ok none := by
        rw [hfirst]
        rwa [hr] at hnone
      rw [resolveOr_first lib t fallback hnone', hfirst]

theorem resolveOr_records (i : Option String) (fallback : String) (h : lib.Records s) :
    lib.Records ((lib.resolveOr i fallback).run s).2 :=
  lib.resolveOr_preserves s lib.Records (fun id u h => lib.resolve_records id u h) i fallback h

/-! ## Sequences of calls -/

/-- A call on the records of a library. -/
inductive Call where
  | resolve (id : String)
  | resolveOr (id : Option String) (fallback : String)

/-- The computation of a call. -/
def call : Call → Rendering (Except Error (Option (List Node)))
  | .resolve id => lib.resolve id
  | .resolveOr id fallback => lib.resolveOr id fallback

/-- The answers of calls made one after another. -/
def calls (cs : List Call) : Rendering (List (Except Error (Option (List Node)))) := cs.mapM lib.call

theorem call_grows (c : Call) : lib.Grows s.built ((lib.call c).run s).2.built := by
  cases c with
  | resolve id => exact lib.resolve_grows id s
  | resolveOr id fallback => exact lib.resolveOr_grows s id fallback

theorem call_records (c : Call) (h : lib.Records s) : lib.Records ((lib.call c).run s).2 := by
  cases c with
  | resolve id => exact lib.resolve_records id s h
  | resolveOr id fallback => exact lib.resolveOr_records s id fallback h

/-- Over any sequence of calls the records grow. -/
theorem calls_grows (cs : List Call) : lib.Grows s.built ((lib.calls cs).run s).2.built :=
  run_mapM_preserves (fun u => lib.Grows s.built u.built) lib.call
    (fun c u h => h.trans (lib.call_grows u c)) cs s (Grows.refl _)

/-- Over any sequence of calls the records stay builds of the sources. -/
theorem calls_records (cs : List Call) (h : lib.Records s) : lib.Records ((lib.calls cs).run s).2 :=
  run_mapM_preserves lib.Records lib.call (fun c u h => lib.call_records u c h) cs s h

/-- The records are a write-once memo of the library's builds. Sessions reached by any calls from
one whose records are builds of the sources (a new session has none) keep records of builds. An
entry stays unchanged through every later sequence of calls, and there answers every resolve of
its id without consulting the sources or the builder and without minting. A resolve of an
unrecorded id touches no other record and records the id exactly when its source builds. With
records of builds, a resolve of an id without a source answers `none`, one whose source does not
read fails naming the id, and neither changes the session. And `resolveOr` falls back, from the
same session, exactly when its first id answers `none`, never on a failure. -/
theorem calls_write_once :
    (∀ s cs, lib.Records s → lib.Records ((lib.calls cs).run s).2) ∧
    (∀ s id t, Keyed.get? s.built id = some t → ∀ (more : List Call) (lib' : Library),
      Keyed.get? ((lib.calls more).run s).2.built id = some t ∧
        (lib'.resolve id).run ((lib.calls more).run s).2 = (.ok (some t), ((lib.calls more).run s).2)) ∧
    (∀ s id, Keyed.get? s.built id = none →
      (∀ j, j ≠ id → Keyed.get? ((lib.resolve id).run s).2.built j = Keyed.get? s.built j) ∧
      ((Keyed.get? ((lib.resolve id).run s).2.built id).isSome ↔ lib.Builds id)) ∧
    (∀ s id, lib.Records s → Keyed.get? lib.sources id = none → (lib.resolve id).run s = (.ok none, s)) ∧
    (∀ s id markup f, lib.Records s → Keyed.get? lib.sources id = some markup →
      lib.builder.build markup = .error f → (lib.resolve id).run s = (.error (.templateMarkup id f), s)) ∧
    ∀ s i fallback,
      (((lib.resolve i).run s).1 = .ok none →
        (lib.resolveOr (some i) fallback).run s = (lib.resolve fallback).run s) ∧
      (((lib.resolve i).run s).1 ≠ .ok none →
        (lib.resolveOr (some i) fallback).run s = (lib.resolve i).run s) := by
  refine ⟨fun s cs h => lib.calls_records s cs h, fun s id t ht more lib' => ?_,
    fun s id hnone => ⟨fun j hj => lib.resolve_other id s hj, lib.resolve_records_iff_builds id s hnone⟩,
    fun s id hs hsrc => lib.resolve_no_source id s hs hsrc,
    fun s id markup f hs hsrc hf => lib.resolve_unbuildable id s hs hsrc hf,
    fun s i fallback => ⟨lib.resolveOr_fallback s fallback, lib.resolveOr_first s fallback⟩⟩
  -- an entry is kept by every later call, and a kept entry answers every resolve
  have hkept := (lib.calls_grows s more).keeps id t ht
  exact ⟨hkept, resolve_cached lib' id _ hkept⟩

/-- A library with one page, `/index`, over the built-in components. -/
def homePage : Library := ⟨[("/index", "<p>home</p>")], Engine.standard.builder⟩

/-- From a new session, after resolving `/index` and then `/missing` with `/index` as fallback,
`/missing`, which has no source, still answers `none` and changes nothing. -/
theorem homePage_missing_stays_none :
    homePage.Records ((homePage.calls [.resolve "/index", .resolveOr (some "/missing") "/index"]).run
        Session.fresh).2 ∧
      (homePage.resolve "/missing").run
          ((homePage.calls [.resolve "/index", .resolveOr (some "/missing") "/index"]).run Session.fresh).2 =
        (.ok none, ((homePage.calls [.resolve "/index", .resolveOr (some "/missing") "/index"]).run Session.fresh).2) := by
  have hrec := (calls_write_once homePage).1 Session.fresh [.resolve "/index", .resolveOr (some "/missing") "/index"]
    homePage.records_fresh
  exact ⟨hrec, (calls_write_once homePage).2.2.2.1 _ "/missing" hrec (by decide)⟩

end Library

end Stencil
