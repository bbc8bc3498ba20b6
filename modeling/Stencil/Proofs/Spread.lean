/-
Spreads and substitutions in any order. Directives change attributes one attribute at a time, in
name order, each step writing over what the steps before it left: a spread erases its own name and
writes its map's entries, a substitution writes its attribute's new value. A step writes a fixed
entry under each name it touches (`get?_attributeStep`), so two steps commute unless they write
different entries under one name. When the spread maps share no key, hold no name with `@data-`,
and name no attribute whose text is substituted, no two steps do, and the steps can be taken in any
order (`transformAttributes_any_order`). A spread entry and a substituted attribute of the same
name overwrite each other in name order (`spread_order_matters`).
-/
import Stencil.Proofs.Registry
import Stencil.Proofs.Directive
import Mathlib.Data.List.Nodup

namespace Stencil

namespace Keyed

variable {α : Type} {t t' : List (String × α)}

theorem get?_append (l₁ l₂ : List (String × α)) (j : String) : get? (l₁ ++ l₂) j = (get? l₁ j).or (get? l₂ j) := by
  induction l₁ with
  | nil => rfl
  | cons e rest ih =>
    obtain ⟨k, v⟩ := e
    by_cases h : k = j <;> simp [get?, h, ih]

theorem get?_insert (t : List (String × α)) (k j : String) (v : α) :
    get? (insert t k v) j = if j = k then some v else get? t j := by
  by_cases h : j = k
  · subst h; simp [get?_insert_self]
  · simp [get?_insert_other t k j v h, h]

theorem get?_erase (t : List (String × α)) (k j : String) : get? (erase t k) j = if j = k then none else get? t j := by
  induction t with
  | nil => simp [erase, get?]
  | cons e rest ih =>
    obtain ⟨k', v'⟩ := e
    unfold erase at ih ⊢
    by_cases hk : k' = k
    · subst hk
      simp only [List.filter_cons, bne_self_eq_false, Bool.false_eq_true, if_false, ih, get?]
      by_cases hj : j = k'
      · simp [hj]
      · simp [hj, Ne.symm hj]
    · simp only [List.filter_cons, bne_iff_ne, ne_eq, hk, not_false_eq_true, if_true, get?, ih]
      by_cases hkj : k' = j
      · subst hkj; simp [hk]
      · simp [hkj]

theorem get?_extend (t es : List (String × α)) (j : String) : get? (extend t es) j = (get? es.reverse j).or (get? t j) := by
  induction es generalizing t with
  | nil => rfl
  | cons e es ih =>
    rw [extend, List.foldl_cons, ← extend, ih, get?_insert, List.reverse_cons, get?_append]
    by_cases h : e.1 = j
    · simp [get?, h]
    · simp [get?, h, Ne.symm h]

theorem pairwise_keys_erase (h : (keys t).Pairwise (· < ·)) (k : String) : (keys (erase t k)).Pairwise (· < ·) :=
  h.sublist (List.filter_sublist.map _)

theorem pairwise_keys_extend (h : (keys t).Pairwise (· < ·)) (es : List (String × α)) :
    (keys (extend t es)).Pairwise (· < ·) := by
  induction es generalizing t with
  | nil => exact h
  | cons e es ih => exact ih (pairwise_keys_insert h)

theorem get?_eq_none_of_lt {k : String} (hk : ∀ j ∈ keys t, k < j) : get? t k = none := by
  cases hg : get? t k with
  | none => rfl
  | some w => exact absurd (hk k (mem_keys_iff.2 (by simp [hg]))) (lt_irrefl k)

/-- Tables with keys in increasing order are equal when every key reads the same in both. -/
theorem ext (h : (keys t).Pairwise (· < ·)) (h' : (keys t').Pairwise (· < ·)) (hget : ∀ j, get? t j = get? t' j) :
    t = t' := by
  induction t generalizing t' with
  | nil =>
    cases t' with
    | nil => rfl
    | cons e rest => simpa [get?] using (hget e.1).symm
  | cons e rest ih =>
    obtain ⟨k, v⟩ := e
    have hk : (∀ j ∈ keys rest, k < j) ∧ (keys rest).Pairwise (· < ·) := List.pairwise_cons.1 h
    cases t' with
    | nil => simpa [get?] using hget k
    | cons e' rest' =>
      obtain ⟨k', v'⟩ := e'
      have hk' : (∀ j ∈ keys rest', k' < j) ∧ (keys rest').Pairwise (· < ·) := List.pairwise_cons.1 h'
      -- the first keys are the least of their tables, and each is a key of the other table
      have hkk : k = k' := by
        have h1 : k ∈ keys ((k', v') :: rest') := mem_keys_iff.2 (by rw [← hget k]; simp [get?])
        have h2 : k' ∈ keys ((k, v) :: rest) := mem_keys_iff.2 (by rw [hget k']; simp [get?])
        rcases List.mem_cons.1 h1 with h1 | h1
        · exact h1
        · rcases List.mem_cons.1 h2 with h2 | h2
          · exact h2.symm
          · exact absurd (hk.1 k' h2) (lt_asymm (hk'.1 k h1))
      subst hkk
      have hvv : v = v' := by simpa [get?] using hget k
      subst hvv
      congr 1
      apply ih hk.2 hk'.2
      intro j
      by_cases hj : k = j
      · subst hj
        rw [get?_eq_none_of_lt hk.1, get?_eq_none_of_lt hk'.1]
      · simpa [get?, hj] using hget j

end Keyed

/-! ## One step of directives -/

section Step

variable (tr : Translation) (ctx : Context)

/-- What directives do to one attribute, over the attributes the steps before it left: a name
holding `@data-` is erased and the entries of the map bound to the rest of the name, if any,
written; a text holding a directive, of any other attribute but `children`, is replaced by its
substitution. -/
def attributeStep (out : Attributes) : String × Value → Attributes
  | (name, value) =>
    match afterInfix dataPrefix name.toList with
    | some key =>
      let out := Keyed.erase out name
      match ctx.value? (String.ofList key) with
      | some (.map entries) => Keyed.extend out entries
      | _ => out
    | none =>
      if name == "children" then out
      else
        match value with
        | .string raw => if hasDirective raw then Keyed.insert out name (substitute tr ctx raw) else out
        | _ => out

/-- Against a context with entries, directives take the step of each attribute in name order. -/
theorem transformAttributes_eq_foldl (attrs : Attributes) (hctx : ctx.isEmpty = false) :
    transformAttributes tr attrs ctx = attrs.foldl (attributeStep tr ctx) attrs := by
  unfold transformAttributes
  split
  · next h =>
    simp only [hctx, Bool.false_or, List.isEmpty_iff] at h
    subst h
    rfl
  · rfl

/-- The map an attribute spreads: for a name holding `@data-`, the map bound to the rest of the
name after it. -/
def spreadMap? (a : String × Value) : Option (List (String × Value)) :=
  match afterInfix dataPrefix a.1.toList with
  | some key =>
    match ctx.value? (String.ofList key) with
    | some (.map entries) => some entries
    | _ => none
  | none => none

/-- A step substitutes its attribute's text: the name holds no `@data-` and is not `children`, and
the value is a text holding a directive. -/
def Substitutes (a : String × Value) : Prop :=
  afterInfix dataPrefix a.1.toList = none ∧ a.1 ≠ "children" ∧ ∃ raw, a.2 = .string raw ∧ hasDirective raw = true

/-- What a step writes under a name: `some e` when it sets the entry to `e`, erasing it when `e` is
`none`, and nothing when it leaves the entry as it was. -/
def stepWrite (a : String × Value) (j : String) : Option (Option Value) :=
  match afterInfix dataPrefix a.1.toList with
  | some _ =>
    match (spreadMap? ctx a).bind fun es => Keyed.get? es.reverse j with
    | some v => some (some v)
    | none => if j = a.1 then some none else none
  | none =>
    match a.2 with
    | .string raw =>
      if j = a.1 ∧ a.1 ≠ "children" ∧ hasDirective raw = true then some (some (substitute tr ctx raw)) else none
    | _ => none

theorem get?_attributeStep (out : Attributes) (a : String × Value) (j : String) :
    Keyed.get? (attributeStep tr ctx out a) j = (stepWrite tr ctx a j).getD (Keyed.get? out j) := by
  obtain ⟨name, value⟩ := a
  unfold attributeStep stepWrite spreadMap?
  cases hkey : afterInfix dataPrefix name.toList with
  | some key =>
    -- a spread: the map's entries, then the erased name, then what was there
    simp only [hkey]
    cases hv : ctx.value? (String.ofList key) with
    | none => by_cases hj : j = name <;> simp [Keyed.get?_erase, hj]
    | some v =>
      cases v with
      | map es =>
        simp only [Keyed.get?_extend, Keyed.get?_erase, Option.bind_some]
        cases Keyed.get? es.reverse j <;> by_cases hj : j = name <;> simp [hj]
      | _ => by_cases hj : j = name <;> simp [Keyed.get?_erase, hj]
  | none =>
    simp only [hkey]
    by_cases hc : name = "children"
    · cases value <;> simp [hc]
    · cases value with
      | string raw =>
        by_cases hd : hasDirective raw = true <;> by_cases hj : j = name <;> simp [hc, hd, hj, Keyed.get?_insert]
      | _ => simp [hc]

theorem pairwise_keys_attributeStep {out : Attributes} (h : (Keyed.keys out).Pairwise (· < ·)) (a : String × Value) :
    (Keyed.keys (attributeStep tr ctx out a)).Pairwise (· < ·) := by
  obtain ⟨name, value⟩ := a
  unfold attributeStep
  simp only
  split
  · split
    · exact Keyed.pairwise_keys_extend (Keyed.pairwise_keys_erase h name) _
    · exact Keyed.pairwise_keys_erase h name
  · split
    · exact h
    · split
      · split
        · exact Keyed.pairwise_keys_insert h
        · exact h
      · exact h

theorem mem_keys_reverse_iff {es : List (String × Value)} {j : String} :
    j ∈ Keyed.keys es ↔ (Keyed.get? es.reverse j).isSome := by
  rw [← Keyed.mem_keys_iff, Keyed.keys, Keyed.keys, List.map_reverse, List.mem_reverse]

theorem stepWrite_of_mem {a : String × Value} {es : List (String × Value)} (hs : spreadMap? ctx a = some es)
    {j : String} (hj : j ∈ Keyed.keys es) : stepWrite tr ctx a j = some (Keyed.get? es.reverse j) := by
  obtain ⟨v, hv⟩ := Option.isSome_iff_exists.1 (mem_keys_reverse_iff.1 hj)
  have hkey : afterInfix dataPrefix a.1.toList ≠ none := by
    intro hnone
    simp [spreadMap?, hnone] at hs
  obtain ⟨key, hkey⟩ := Option.ne_none_iff_exists'.1 hkey
  unfold stepWrite
  simp [hkey, hs, hv]

theorem stepWrite_ne_none {a : String × Value} {j : String} (h : stepWrite tr ctx a j ≠ none) :
    (∃ es, spreadMap? ctx a = some es ∧ j ∈ Keyed.keys es) ∨
      (j = a.1 ∧ (hasInfix dataPrefix a.1.toList = true ∨ Substitutes a)) := by
  unfold stepWrite at h
  cases hkey : afterInfix dataPrefix a.1.toList with
  | some key =>
    rw [hkey] at h
    cases hw : (spreadMap? ctx a).bind fun es => Keyed.get? es.reverse j with
    | some v =>
      obtain ⟨es, hes, hv⟩ := Option.bind_eq_some_iff.1 hw
      exact .inl ⟨es, hes, mem_keys_reverse_iff.2 (by simp [hv])⟩
    | none =>
      rw [hw] at h
      have hja : j = a.1 := by
        by_contra hne
        exact h (if_neg hne)
      have hinf : hasInfix dataPrefix a.1.toList = true := by
        rw [← Bool.not_eq_false, ← afterInfix_eq_none, hkey]
        simp
      exact .inr ⟨hja, .inl hinf⟩
  | none =>
    rw [hkey] at h
    -- only a directive-holding text of an attribute other than `children` is written
    obtain ⟨raw, hraw⟩ : ∃ raw, a.2 = .string raw := by
      cases hv : a.2 with
      | string raw => exact ⟨raw, rfl⟩
      | _ => simp [hv] at h
    simp only [hraw] at h
    by_cases hc : j = a.1 ∧ a.1 ≠ "children" ∧ hasDirective raw = true
    · exact .inr ⟨hc.1, .inr ⟨hkey, hc.2.1, raw, hraw, hc.2.2⟩⟩
    · exact absurd (if_neg hc) h

end Step

/-! ## Steps in any order -/

/-- The spreads of some attributes are independent against a context: two different spread maps
share no key, no spread map holds a name with `@data-`, and no spread map holds the name of an
attribute whose text is substituted. -/
structure SpreadsIndependent (ctx : Context) (attrs : Attributes) : Prop where
  disjoint : ∀ a ∈ attrs, ∀ b ∈ attrs, ∀ ma mb, spreadMap? ctx a = some ma → spreadMap? ctx b = some mb →
    ma ≠ mb → ∀ j ∈ Keyed.keys ma, j ∉ Keyed.keys mb
  plainKeys : ∀ a ∈ attrs, ∀ m, spreadMap? ctx a = some m → ∀ j ∈ Keyed.keys m, hasInfix dataPrefix j.toList = false
  noClash : ∀ a ∈ attrs, ∀ m, spreadMap? ctx a = some m → ∀ b ∈ attrs, b.1 ∈ Keyed.keys m → ¬ Substitutes b

section Order

variable {tr : Translation} {ctx : Context} {attrs : Attributes}

/-- Two steps of independent spreads on attributes of different names never write different entries
under one name. -/
theorem SpreadsIndependent.writes_agree (hind : SpreadsIndependent ctx attrs) {a b : String × Value}
    (ha : a ∈ attrs) (hb : b ∈ attrs) (hab : a.1 ≠ b.1) (j : String) :
    stepWrite tr ctx a j = none ∨ stepWrite tr ctx b j = none ∨ stepWrite tr ctx a j = stepWrite tr ctx b j := by
  by_cases hwa : stepWrite tr ctx a j = none
  · exact .inl hwa
  by_cases hwb : stepWrite tr ctx b j = none
  · exact .inr (.inl hwb)
  refine .inr (.inr ?_)
  rcases stepWrite_ne_none tr ctx hwa with ⟨ma, hma, hja⟩ | ⟨rfl, hsa⟩ <;>
    rcases stepWrite_ne_none tr ctx hwb with ⟨mb, hmb, hjb⟩ | ⟨hjb, hsb⟩
  · -- both spread maps hold the name: they are one map
    by_cases hm : ma = mb
    · subst hm
      rw [stepWrite_of_mem tr ctx hma hja, stepWrite_of_mem tr ctx hmb hjb]
    · exact absurd hjb (hind.disjoint a ha b hb ma mb hma hmb hm j hja)
  · -- `b`'s own name is in `a`'s map: `b` is neither a spread nor substituted
    subst hjb
    rcases hsb with hsb | hsb
    · exact absurd hsb (by rw [hind.plainKeys a ha ma hma _ hja]; simp)
    · exact absurd hsb (hind.noClash a ha ma hma b hb hja)
  · rcases hsa with hsa | hsa
    · exact absurd hsa (by rw [hind.plainKeys b hb mb hmb _ hjb]; simp)
    · exact absurd hsa (hind.noClash b hb mb hmb a ha hjb)
  · exact absurd hjb hab

theorem getD_getD_comm {w₁ w₂ : Option (Option Value)} (h : w₁ = none ∨ w₂ = none ∨ w₁ = w₂) (o : Option Value) :
    w₁.getD (w₂.getD o) = w₂.getD (w₁.getD o) := by
  rcases h with rfl | rfl | rfl <;> rfl

/-- On attributes in name order, the steps of two attributes of independent spreads commute. -/
theorem SpreadsIndependent.step_comm (hind : SpreadsIndependent ctx attrs) (hnames : (Keyed.keys attrs).Nodup)
    {a b : String × Value} (ha : a ∈ attrs) (hb : b ∈ attrs) {out : Attributes}
    (hout : (Keyed.keys out).Pairwise (· < ·)) :
    attributeStep tr ctx (attributeStep tr ctx out a) b = attributeStep tr ctx (attributeStep tr ctx out b) a := by
  by_cases hab : a = b
  · rw [hab]
  have hname : a.1 ≠ b.1 := fun h => hab (List.inj_on_of_nodup_map hnames ha hb h)
  apply Keyed.ext (pairwise_keys_attributeStep tr ctx (pairwise_keys_attributeStep tr ctx hout a) b)
    (pairwise_keys_attributeStep tr ctx (pairwise_keys_attributeStep tr ctx hout b) a)
  intro j
  simp only [get?_attributeStep]
  exact (getD_getD_comm (hind.writes_agree ha hb hname j) _).symm

/-- Attribute tables with names in increasing order, as directives keep them. -/
abbrev OrderedAttributes := {t : Attributes // (Keyed.keys t).Pairwise (· < ·)}

/-- The step of one attribute on tables in name order. -/
def orderedStep (tr : Translation) (ctx : Context) (t : OrderedAttributes) (a : String × Value) : OrderedAttributes :=
  ⟨attributeStep tr ctx t.1 a, pairwise_keys_attributeStep tr ctx t.2 a⟩

theorem foldl_orderedStep (l : List (String × Value)) (t : OrderedAttributes) :
    (l.foldl (orderedStep tr ctx) t).1 = l.foldl (attributeStep tr ctx) t.1 := by
  induction l generalizing t with
  | nil => rfl
  | cons a l ih => exact ih _

/-- Directives taken in any order. On an attribute map against a context with entries, where two
different spread maps share no key, no spread map holds a name with `@data-`, and no spread map
holds the name of an attribute whose text is substituted, the attributes come out the same whatever
order the steps of the attributes are taken in. -/
theorem transformAttributes_any_order (hA : (Keyed.keys attrs).Pairwise (· < ·)) (hctx : ctx.isEmpty = false)
    (hind : SpreadsIndependent ctx attrs) (l : List (String × Value)) (hl : l.Perm attrs) :
    transformAttributes tr attrs ctx = l.foldl (attributeStep tr ctx) attrs := by
  have hcomm : ∀ a ∈ attrs, ∀ b ∈ attrs, ∀ t : OrderedAttributes,
      orderedStep tr ctx (orderedStep tr ctx t a) b = orderedStep tr ctx (orderedStep tr ctx t b) a :=
    fun a ha b hb t => Subtype.ext (hind.step_comm (hA.imp ne_of_lt) ha hb t.2)
  rw [transformAttributes_eq_foldl tr ctx attrs hctx, ← foldl_orderedStep attrs ⟨attrs, hA⟩,
    ← foldl_orderedStep l ⟨attrs, hA⟩, List.Perm.foldl_eq' hl.symm hcomm]

end Order

/-- A spread of `aria` next to a plain `id` comes out the same in either order. -/
theorem aria_spread_any_order :
    transformAttributes ⟨.keys, defaultDomain⟩ [("@data-aria", .string ""), ("id", .string "x")]
        ⟨[("aria", .value (.map [("aria-label", .string "Close"), ("role", .string "button")]))]⟩ =
      [("id", .string "x"), ("@data-aria", .string "")].foldl
        (attributeStep ⟨.keys, defaultDomain⟩
          ⟨[("aria", .value (.map [("aria-label", .string "Close"), ("role", .string "button")]))]⟩)
        [("@data-aria", .string ""), ("id", .string "x")] := by
  have hspread : spreadMap? ⟨[("aria", .value (.map [("aria-label", .string "Close"), ("role", .string "button")]))]⟩
      ("@data-aria", .string "") = some [("aria-label", .string "Close"), ("role", .string "button")] := rfl
  have hid : spreadMap? ⟨[("aria", .value (.map [("aria-label", .string "Close"), ("role", .string "button")]))]⟩
      ("id", .string "x") = none := rfl
  refine transformAttributes_any_order (by decide) rfl ⟨?_, ?_, ?_⟩ _ (List.Perm.swap _ _ [])
  · intro a ha b hb ma mb h1 h2 hne
    simp only [List.mem_cons, List.not_mem_nil, or_false] at ha hb
    rcases ha with rfl | rfl <;> rcases hb with rfl | rfl
    all_goals simp only [hspread, hid, reduceCtorEq, Option.some.injEq] at h1 h2
    subst h1 h2
    exact absurd rfl hne
  · intro a ha m hm j hj
    simp only [List.mem_cons, List.not_mem_nil, or_false] at ha
    rcases ha with rfl | rfl
    · simp only [hspread, Option.some.injEq] at hm
      subst hm
      simp only [Keyed.keys, List.map_cons, List.map_nil, List.mem_cons, List.not_mem_nil, or_false] at hj
      rcases hj with rfl | rfl <;> decide
    · simp [hid] at hm
  · intro a ha m hm b hb hbm
    simp only [List.mem_cons, List.not_mem_nil, or_false] at ha hb
    rcases ha with rfl | rfl
    · simp only [hspread, Option.some.injEq] at hm
      subst hm
      rcases hb with rfl | rfl <;> simp [Keyed.keys] at hbm
    · simp [hid] at hm

/-- A spread entry and a substituted attribute of one name overwrite each other in name order: with
`@data-m` spreading a `title` that is also written with a directive, directives keep the
substitution of the later name, while the steps taken in reverse order keep the spread entry. -/
theorem spread_order_matters :
    transformAttributes ⟨.keys, defaultDomain⟩ [("@data-m", .string ""), ("title", .string "@data-x")]
        ⟨[("m", .value (.map [("title", .string "spread")])), ("x", .value (.string "X"))]⟩ ≠
      [("title", .string "@data-x"), ("@data-m", .string "")].foldl
        (attributeStep ⟨.keys, defaultDomain⟩
          ⟨[("m", .value (.map [("title", .string "spread")])), ("x", .value (.string "X"))]⟩)
        [("@data-m", .string ""), ("title", .string "@data-x")] := by
  -- in name order the spread writes `title` first, and the substitution of `@data-x` then overwrites it
  have hsub : substitute ⟨.keys, defaultDomain⟩
      ⟨[("m", .value (.map [("title", .string "spread")])), ("x", .value (.string "X"))]⟩ "@data-x" =
        .string "X" := by
    rw [show "@data-x" = "@data-" ++ "x" from rfl, substitute_directive _ _ (by decide)]
    rfl
  have hnamed : transformAttributes ⟨.keys, defaultDomain⟩ [("@data-m", .string ""), ("title", .string "@data-x")]
      ⟨[("m", .value (.map [("title", .string "spread")])), ("x", .value (.string "X"))]⟩ =
        Keyed.insert [("title", .string "spread")] "title" (substitute ⟨.keys, defaultDomain⟩
          ⟨[("m", .value (.map [("title", .string "spread")])), ("x", .value (.string "X"))]⟩ "@data-x") := rfl
  rw [hsub, show Keyed.insert [("title", Value.string "spread")] "title" (.string "X") = [("title", .string "X")]
    from rfl] at hnamed
  have hreversed : [("title", .string "@data-x"), ("@data-m", .string "")].foldl
      (attributeStep ⟨.keys, defaultDomain⟩
        ⟨[("m", .value (.map [("title", .string "spread")])), ("x", .value (.string "X"))]⟩)
      [("@data-m", .string ""), ("title", .string "@data-x")] = [("title", .string "spread")] := rfl
  rw [hnamed, hreversed]
  simp

end Stencil
