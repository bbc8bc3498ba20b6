/-
The registry's invariant. A registry reached from the empty or the built-in one by registrations
keeps every component under its own name, which is a type name, with the names in strictly
increasing order (`Registry.WellFormed`); a lookup answers the last successful registration of the
name, the built-in registry counting as its four built-ins registered first; a registration under
a name that is no type name is refused with that name and changes nothing. Expanding a tag by its
registered component copies the component's name, so over such a registry an expansion never
renames an element (`Registry.registerAll_last_wins`).
-/
import Stencil.Proofs.Build
import Stencil.Engine
import Mathlib.Data.String.Basic

namespace Stencil

namespace Keyed

variable {α : Type} {t : List (String × α)} {k : String} {v : α}

theorem mem_insert {e : String × α} (h : e ∈ insert t k v) : e = (k, v) ∨ e ∈ t := by
  induction t with
  | nil => simpa [insert] using h
  | cons e' rest ih =>
    obtain ⟨k', v'⟩ := e'
    unfold insert at h
    split_ifs at h with h1 h2
    · simpa [or_left_comm] using h
    · subst h2
      rcases List.mem_cons.1 h with rfl | h
      · exact .inl rfl
      · exact .inr (List.mem_cons_of_mem _ h)
    · rcases List.mem_cons.1 h with rfl | h
      · exact .inr List.mem_cons_self
      · exact (ih h).imp_right (List.mem_cons_of_mem _)

theorem mem_keys_insert {j : String} (h : j ∈ keys (insert t k v)) : j = k ∨ j ∈ keys t := by
  obtain ⟨e, he, rfl⟩ := List.mem_map.1 h
  rcases mem_insert he with rfl | he
  · exact .inl rfl
  · exact .inr (List.mem_map_of_mem he)

theorem pairwise_keys_insert (h : (keys t).Pairwise (· < ·)) : (keys (insert t k v)).Pairwise (· < ·) := by
  induction t with
  | nil => simp [insert, keys]
  | cons e rest ih =>
    obtain ⟨k', v'⟩ := e
    have hrest : ∀ j ∈ keys rest, k' < j := (List.pairwise_cons.1 h).1
    unfold insert
    split_ifs with h1 h2
    · -- a new first key, below the old one and so below all
      refine List.pairwise_cons.2 ⟨fun j hj => ?_, h⟩
      rcases List.mem_cons.1 hj with rfl | hj
      · exact h1
      · exact lt_trans h1 (hrest j hj)
    · -- the same key in the same place
      subst h2
      exact h
    · -- the key goes further down, past `k'`
      have hlt : k' < k := by
        rcases lt_trichotomy k k' with h3 | h3 | h3
        · exact absurd h3 h1
        · exact absurd h3 h2
        · exact h3
      refine List.pairwise_cons.2 ⟨fun j hj => ?_, ih (List.pairwise_cons.1 h).2⟩
      rcases mem_keys_insert hj with rfl | hj
      · exact hlt
      · exact hrest j hj

theorem mem_of_get? (h : get? t k = some v) : (k, v) ∈ t := by
  induction t with
  | nil => cases h
  | cons e rest ih =>
    obtain ⟨k', v'⟩ := e
    unfold get? at h
    split_ifs at h with h1
    · cases h
      subst h1
      exact List.mem_cons_self
    · exact List.mem_cons_of_mem _ (ih h)

theorem mem_keys_iff : k ∈ keys t ↔ (get? t k).isSome := by
  induction t with
  | nil => simp [keys, get?]
  | cons e rest ih =>
    obtain ⟨k', v'⟩ := e
    by_cases h : k' = k
    · simp [keys, get?, h]
    · simp only [keys, get?, h, List.map_cons, List.mem_cons, if_false] at ih ⊢
      rw [← ih]
      exact ⟨fun h' => h'.resolve_left (Ne.symm h), .inr⟩

end Keyed

namespace Registry

/-- What registration keeps of a registry: the names strictly increasing, and each component
stored under its own name, a type name. -/
structure WellFormed (r : Registry) : Prop where
  sorted : r.names.Pairwise (· < ·)
  named : ∀ e ∈ r.components, e.2.name = e.1 ∧ isTypeName e.1 = true

/-- The registry after registering each component in turn, a refused registration leaving it as it
was. -/
def registerAll (r : Registry) : List Component → Registry
  | [] => r
  | c :: cs => ((r.register? c).getD r).registerAll cs

/-- The last component of a sequence of registrations that `name` was registered to. -/
def lastRegistered (cs : List Component) (name : String) : Option Component :=
  (cs.filter fun c => isTypeName c.name && c.name == name).getLast?

theorem register?_eq (r : Registry) (c : Component) :
    r.register? c = if isTypeName c.name then some ⟨Keyed.insert r.components c.name c⟩ else none := by
  unfold register? Component.typeName?
  split <;> rfl

theorem get?_register? (r : Registry) (c : Component) (name : String) :
    ((r.register? c).getD r).get? name =
      (if isTypeName c.name && c.name == name then some c else none).or (r.get? name) := by
  rw [register?_eq]
  by_cases ht : isTypeName c.name = true
  · by_cases hn : c.name = name
    · subst hn
      simp [ht, get?, Keyed.get?_insert_self]
    · simp [ht, hn, get?, Keyed.get?_insert_other _ _ _ _ (Ne.symm hn)]
  · simp [ht]

theorem lastRegistered_cons (c : Component) (cs : List Component) (name : String) :
    lastRegistered (c :: cs) name =
      (lastRegistered cs name).or (if isTypeName c.name && c.name == name then some c else none) := by
  unfold lastRegistered
  rw [List.filter_cons]
  split
  · rw [List.getLast?_cons]
    cases (cs.filter fun c => isTypeName c.name && c.name == name).getLast? <;> simp_all
  · simp_all

/-- A lookup after a sequence of registrations answers the last one made under the name, or, when
there is none, what the registry answered before. -/
theorem get?_registerAll (r : Registry) (cs : List Component) (name : String) :
    (r.registerAll cs).get? name = (lastRegistered cs name).or (r.get? name) := by
  induction cs generalizing r with
  | nil => rfl
  | cons c cs ih =>
    rw [registerAll, ih, get?_register?, lastRegistered_cons, Option.or_assoc]

/-- The built-in registry is the empty one with the four built-ins registered. -/
theorem standard_eq_registerAll : Registry.standard = Registry.empty.registerAll Component.builtins := rfl

theorem WellFormed.empty : Registry.empty.WellFormed :=
  ⟨List.Pairwise.nil, fun _ h => nomatch h⟩

theorem WellFormed.register {r : Registry} (hr : r.WellFormed) (c : Component) :
    ((r.register? c).getD r).WellFormed := by
  rw [register?_eq]
  by_cases ht : isTypeName c.name = true
  · rw [if_pos ht]
    refine ⟨Keyed.pairwise_keys_insert hr.sorted, fun e he => ?_⟩
    rcases Keyed.mem_insert he with rfl | he
    · exact ⟨rfl, ht⟩
    · exact hr.named e he
  · rw [if_neg ht]
    exact hr

theorem WellFormed.registerAll {r : Registry} (hr : r.WellFormed) (cs : List Component) :
    (r.registerAll cs).WellFormed := by
  induction cs generalizing r with
  | nil => exact hr
  | cons c cs ih => exact ih (hr.register c)

theorem WellFormed.standard : Registry.standard.WellFormed := by
  rw [standard_eq_registerAll]
  exact WellFormed.empty.registerAll _

theorem WellFormed.name_of_get? {r : Registry} (hr : r.WellFormed) {name : String} {c : Component}
    (h : r.get? name = some c) : c.name = name :=
  (hr.named _ (Keyed.mem_of_get? h)).1

theorem mem_names_iff (r : Registry) (name : String) : name ∈ r.names ↔ r.has name = true :=
  Keyed.mem_keys_iff

theorem size_eq_length_names (r : Registry) : r.size = r.names.length := by
  simp [size, names, Keyed.keys]

end Registry

/-- Over a well-formed registry a raw tag builds into an element of its own name, whether it is
expanded or not. -/
theorem Builder.buildNode_tag_name (b : Builder) (hwf : b.registry.WellFormed) (parent : Option String)
    (name data : String) (attrs : List (String × String)) (children : List Markup.RawNode) (k : Nat) :
    ∃ el, ((b.buildNode parent ⟨.tag, name, data, attrs, children⟩).run k).1 = some (.element el) ∧
      el.name = name := by
  obtain ⟨el, hel, -, hname⟩ := b.buildNode_tag_element parent name data attrs children k
  refine ⟨el, hel, ?_⟩
  -- an expansion takes the component's name, which is the name it is stored under
  cases hc : b.registry.get? name with
  | none => simpa [hc] using hname
  | some c => simpa [hc, hwf.name_of_get? hc] using hname

namespace Registry

/-- Registrations from the empty or the built-in registry keep every component under its own
name, a type name, in strictly increasing name order. A lookup answers the last successful
registration under the name, the built-in registry answering as if its four built-ins were
registered first, and membership, presence and size agree with the lookups; a registration under
a name that is no type name is refused, with that name, and changes nothing. So expanding a tag
by a registered component never renames it. -/
theorem registerAll_last_wins (r₀ : Registry) (h₀ : r₀ = .empty ∨ r₀ = .standard) (cs : List Component) :
    (∀ e ∈ (r₀.registerAll cs).components, e.2.name = e.1 ∧ isTypeName e.1 = true) ∧
    (∀ name, (r₀.registerAll cs).get? name = (lastRegistered cs name).or (r₀.get? name)) ∧
    (∀ name, Registry.standard.get? name = lastRegistered Component.builtins name) ∧
    (r₀.registerAll cs).names.Pairwise (· < ·) ∧
    (∀ name, name ∈ (r₀.registerAll cs).names ↔ (r₀.registerAll cs).has name = true) ∧
    (r₀.registerAll cs).size = (r₀.registerAll cs).names.length ∧
    (∀ c, isTypeName c.name = false →
      (r₀.registerAll cs).register? c = none ∧ ∀ e : Engine, e.register c = .error (.invalidComponent c.name)) ∧
    ∀ tr domain parent name data attrs children k, ∃ el,
      (((⟨r₀.registerAll cs, tr, domain⟩ : Builder).buildNode parent
        ⟨.tag, name, data, attrs, children⟩).run k).1 = some (.element el) ∧ el.name = name := by
  have hwf : (r₀.registerAll cs).WellFormed := by
    rcases h₀ with rfl | rfl
    · exact WellFormed.empty.registerAll cs
    · exact WellFormed.standard.registerAll cs
  refine ⟨hwf.named, get?_registerAll r₀ cs, fun name => ?_, hwf.sorted, mem_names_iff _,
    size_eq_length_names _, fun c hc => ⟨?_, fun e => ?_⟩,
    fun tr domain => Builder.buildNode_tag_name ⟨_, tr, domain⟩ hwf⟩
  · -- the built-ins, registered into the empty registry
    rw [standard_eq_registerAll, get?_registerAll]
    exact Option.or_none
  · rw [register?_eq, if_neg (by simp [hc])]
  · rw [Engine.register, register?_eq, if_neg (by simp [hc])]

/-- A host component registered over the built-ins answers for its name. -/
theorem alert_registered_over_builtins :
    (Registry.standard = .empty ∨ Registry.standard = .standard) ∧
      (Registry.standard.registerAll [Component.host "Alert", Component.host "1x"]).get? "Alert" =
        some (Component.host "Alert") := by
  refine ⟨.inr rfl, ?_⟩
  rw [(registerAll_last_wins .standard (.inr rfl) _).2.1 "Alert"]
  rfl

end Registry

end Stencil
