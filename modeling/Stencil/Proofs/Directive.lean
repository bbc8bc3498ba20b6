/-
Directives as binding applies them to attributes. Attributes that carry no directive come out
unchanged, whatever the context. A value that is exactly one `@data-k`, with a key free of
spaces and `&`, becomes the list or map `k` is bound to, and otherwise the text of `k`'s value,
the empty text when `k` has none (`substitute_directive`).
-/
import Stencil.Bind.Directive
import Mathlib.Data.List.TakeDrop
import Mathlib.Data.List.TakeWhile
import Mathlib.Data.List.Basic

namespace Stencil

/-! ## Matching in text -/

theorem hasInfix_iff (pat : List Char) : ∀ cs, hasInfix pat cs = true ↔ pat <:+: cs
  | [] => by
    cases pat with
    | nil => simp [hasInfix]
    | cons p ps => simp [hasInfix]
  | c :: cs => by
    rw [hasInfix, Bool.or_eq_true, List.isPrefixOf_iff_prefix, hasInfix_iff pat cs, List.infix_cons_iff]

theorem afterInfix_eq_none (pat : List Char) : ∀ cs, afterInfix pat cs = none ↔ hasInfix pat cs = false
  | [] => by cases pat <;> simp [afterInfix, hasInfix]
  | c :: cs => by
    rw [afterInfix, hasInfix]
    by_cases h : pat.isPrefixOf (c :: cs) = true
    · simp [h]
    · simp only [h, Bool.false_or]
      exact afterInfix_eq_none pat cs

/-! ## Attributes without directives -/

theorem foldl_eq_self {α β : Type} (f : α → β → α) (a : α) :
    ∀ l : List β, (∀ x ∈ l, f a x = a) → l.foldl f a = a
  | [], _ => rfl
  | x :: l, h => by
    rw [List.foldl_cons, h x (List.mem_cons_self ..)]
    exact foldl_eq_self f a l (fun y hy => h y (List.mem_cons_of_mem _ hy))

/-- An attribute is plain when its name holds no `@data-` and its value, if a text, holds no
directive. -/
def plainAttribute (a : String × Value) : Bool :=
  !hasInfix dataPrefix a.1.toList && match a.2 with
    | .string raw => !hasDirective raw
    | _ => true

/-- Plain attributes are left as they are, against any context. -/
theorem transformAttributes_plain (tr : Translation) (attrs : Attributes) (ctx : Context)
    (h : ∀ a ∈ attrs, plainAttribute a = true) : transformAttributes tr attrs ctx = attrs := by
  unfold transformAttributes
  split
  · rfl
  · apply foldl_eq_self
    rintro ⟨name, value⟩ hmem
    have hp := h _ hmem
    simp only [plainAttribute, Bool.and_eq_true, Bool.not_eq_true'] at hp
    dsimp only
    rw [(afterInfix_eq_none dataPrefix name.toList).2 hp.1]
    dsimp only
    split
    · rfl
    · cases value with
      | string raw =>
        have hd : hasDirective raw = false := by simpa using hp.2
        simp [hd]
      | _ => rfl

/-! ## A value that is one data directive -/

theorem dataKey_of_keyChars {ks : List Char} (h : ∀ c ∈ ks, endsKey c = false) : dataKey ks = (ks, []) := by
  have hspan : ∀ l : List Char, (∀ c ∈ l, endsKey c = false) → l.span (fun d => !endsKey d) = (l, []) := by
    intro l hl
    rw [List.span_eq_takeWhile_dropWhile, List.takeWhile_eq_self_iff.2 (by simpa using hl),
      List.dropWhile_eq_nil_iff.2 (by simpa using hl)]
  cases ks with
  | nil => rfl
  | cons c rest =>
    have hrest := hspan rest (fun d hd => h d (List.mem_cons_of_mem _ hd))
    by_cases hc : (c == '\n') = true
    · simp only [dataKey, hc, if_true]; exact hspan _ h
    · simp only [dataKey, hc, hrest, Bool.false_eq_true, if_false]

theorem replaceMatches_whole (matchAt : List Char → Option Nat) (f : List Char → Option (List Char))
    {cs : List Char} (hne : cs ≠ []) (h : matchAt cs = some cs.length) :
    replaceMatches matchAt f cs = (f cs).map (· ++ []) := by
  obtain ⟨c, rest, rfl⟩ := List.exists_cons_of_ne_nil hne
  rw [replaceMatches, h]
  dsimp only
  rw [dif_pos (by simp), List.take_length, List.drop_length, replaceMatches.eq_1]
  cases f (c :: rest) <;> rfl

theorem endsKey_of_not_mem {k : String} (hk : ' ' ∉ k.toList ∧ '&' ∉ k.toList) :
    ∀ c ∈ k.toList, endsKey c = false := by
  intro c hc
  have h1 : c ≠ ' ' := fun h => hk.1 (h ▸ hc)
  have h2 : c ≠ '&' := fun h => hk.2 (h ▸ hc)
  simp [endsKey, h1, h2]

theorem substituteToken_directive (tr : Translation) (ctx : Context) {k : String}
    (hk : ' ' ∉ k.toList ∧ '&' ∉ k.toList) :
    substituteToken tr ctx ("@data-" ++ k) = (ctx.value? k).bind Value.display := by
  have hcs : ("@data-" ++ k).toList = dataPrefix ++ k.toList := String.toList_append
  have hkey := dataKey_of_keyChars (endsKey_of_not_mem hk)
  have hmatch : dataMatchAt (dataPrefix ++ k.toList) = some (dataPrefix ++ k.toList).length := by
    simp [dataMatchAt, List.isPrefixOf_iff_prefix, hkey]
  have hinfix : hasInfix dataPrefix (dataPrefix ++ k.toList) = true :=
    (hasInfix_iff _ _).2 (List.prefix_append dataPrefix k.toList).isInfix
  unfold substituteToken
  rw [hcs, if_pos hinfix, replaceMatches_whole _ _ (by simp [dataPrefix]) hmatch, List.drop_left,
    String.ofList_toList]
  cases (ctx.value? k).bind Value.display <;> simp

theorem intercalate_filter_single (t : String) : " ".intercalate ([t].filter (!·.isEmpty)) = t := by
  by_cases h : t.isEmpty = true
  · simp [String.isEmpty_iff.1 h]
  · simp [h]

/-- What a text that is exactly one data directive becomes, given the value of its key: a list
or a map is kept as it is, anything else becomes its text, the empty text when it has none. -/
def directiveValue : Option Value → Value
  | some (.list items) => .list items
  | some (.map entries) => .map entries
  | v => .string ((v.bind Value.display).getD "")

theorem substitute_directive (tr : Translation) (ctx : Context) {k : String}
    (hk : ' ' ∉ k.toList ∧ '&' ∉ k.toList) :
    substitute tr ctx ("@data-" ++ k) = directiveValue (ctx.value? k) := by
  have hcs : ("@data-" ++ k).toList = dataPrefix ++ k.toList := String.toList_append
  have hkey := dataKey_of_keyChars (endsKey_of_not_mem hk)
  have hsplit : (dataPrefix ++ k.toList).splitOn ' ' = [dataPrefix ++ k.toList] :=
    List.splitOn_eq_singleton (by simp [dataPrefix, hk.1])
  have hpre : dataPrefix.isPrefixOf (dataPrefix ++ k.toList) = true :=
    List.isPrefixOf_iff_prefix.2 (List.prefix_append _ _)
  unfold substitute
  simp only [hcs, hpre, List.drop_left, hkey, List.isEmpty_nil, Bool.and_self, if_true, String.ofList_toList,
    hsplit, List.map_cons, List.map_nil]
  rw [← hcs, String.ofList_toList]
  simp only [List.filterMap_cons, List.filterMap_nil, substituteToken_directive tr ctx hk]
  cases ctx.value? k with
  | none => rfl
  | some v =>
    cases hv : v.display with
    | none => cases v <;> simp_all [Value.display, directiveValue]
    | some t => cases v <;> simp_all [Value.display, directiveValue, intercalate_filter_single]

/-! ## What directives read

A directive reads the context only under the keys written after `@data-` in the text that
holds it, so two contexts with the same values under those keys give the same result. -/

/-- `@data-n` occurs in `cs`. -/
def MentionsKey (n : String) (cs : List Char) : Prop := dataPrefix ++ n.toList <:+: cs

theorem MentionsKey.mono {n : String} {cs ds : List Char} (h : MentionsKey n cs) (hsub : cs <:+: ds) :
    MentionsKey n ds :=
  List.IsInfix.trans h hsub

theorem MentionsKey.mem {n : String} {cs : List Char} (h : MentionsKey n cs) {c : Char} (hc : c ∈ n.toList) :
    c ∈ cs :=
  List.IsInfix.subset h (List.mem_append_right _ hc)

theorem afterInfix_occurs (pat : List Char) : ∀ cs rest, afterInfix pat cs = some rest → pat ++ rest <:+: cs
  | [], rest, h => by
    cases pat with
    | nil =>
      simp only [afterInfix, List.isEmpty_nil, if_true, Option.some.injEq] at h
      subst h
      exact List.infix_refl _
    | cons p ps => simp [afterInfix] at h
  | c :: cs, rest, h => by
    rw [afterInfix] at h
    by_cases hp : pat.isPrefixOf (c :: cs) = true
    · rw [if_pos hp, Option.some.injEq] at h
      subst h
      -- the prefix and what follows it make up the whole text
      exact ⟨[], [], by rw [List.nil_append, List.append_nil]; exact List.prefix_iff_eq_append.1 (List.isPrefixOf_iff_prefix.1 hp)⟩
    · rw [if_neg hp] at h
      exact (afterInfix_occurs pat cs rest h).trans (List.suffix_cons c cs).isInfix

theorem splitOnP_pieces (p : Char → Bool) :
    ∀ cs : List Char, (∀ t ∈ cs.splitOnP p, t <:+: cs) ∧ ∃ first rest, cs.splitOnP p = first :: rest ∧ first <+: cs
  | [] => by simp [List.splitOnP_nil]
  | c :: cs => by
    obtain ⟨hall, first, rest, heq, hpre⟩ := splitOnP_pieces p cs
    have hsuf : cs <:+: c :: cs := (List.suffix_cons c cs).isInfix
    rw [List.splitOnP_cons_eq_if_modifyHead]
    split
    · refine ⟨?_, [], cs.splitOnP p, rfl, List.nil_prefix⟩
      intro t ht
      rcases List.mem_cons.1 ht with rfl | ht
      · exact List.nil_infix
      · exact (hall t ht).trans hsuf
    · have hcons : c :: first <+: c :: cs := (List.prefix_cons_inj c).2 hpre
      rw [heq, List.modifyHead_cons]
      refine ⟨?_, c :: first, rest, rfl, hcons⟩
      intro t ht
      rcases List.mem_cons.1 ht with rfl | ht
      · exact hcons.isInfix
      · exact (hall t (by rw [heq]; exact List.mem_cons_of_mem _ ht)).trans hsuf

/-- Two replacement functions that agree on every match give the same replacement. `Q` is
what a match is known to satisfy. -/
theorem replaceMatches_congr (matchAt : List Char → Option Nat) (f g : List Char → Option (List Char))
    (Q : List Char → Prop) (hQ : ∀ x n, matchAt x = some n → Q (x.take n)) (cs : List Char)
    (h : ∀ m, m <:+: cs → Q m → f m = g m) :
    replaceMatches matchAt f cs = replaceMatches matchAt g cs := by
  induction cs using replaceMatches.induct matchAt f with
  | case1 => rw [replaceMatches, replaceMatches]
  | case2 c cs n hm hn _ _ _ _ _ ih | case3 c cs n hm hn _ _ ih =>
    -- a match at the front: its replacement, then the rest after it
    have hf : f ((c :: cs).take n) = g ((c :: cs).take n) :=
      h _ (List.take_prefix n _).isInfix (hQ _ n hm)
    have hrest := ih (fun m hsub hq => h m (hsub.trans (List.drop_suffix n _).isInfix) hq)
    rw [replaceMatches, replaceMatches, hm]
    simp only [dif_pos hn, hf, hrest]
  | case4 c cs n hm hn ih =>
    have hrest := ih (fun m hsub hq => h m (hsub.trans (List.suffix_cons c cs).isInfix) hq)
    rw [replaceMatches, replaceMatches, hm]
    simp only [dif_neg hn, hrest]
  | case5 c cs hm ih =>
    have hrest := ih (fun m hsub hq => h m (hsub.trans (List.suffix_cons c cs).isInfix) hq)
    rw [replaceMatches, replaceMatches, hm]
    simp only [hrest]

theorem dataMatchAt_starts (x : List Char) (n : Nat) (h : dataMatchAt x = some n) : dataPrefix <+: x.take n := by
  unfold dataMatchAt at h
  split at h
  · next hp =>
    rw [Option.some.injEq] at h
    subst h
    exact (List.prefix_take_iff.2 ⟨List.isPrefixOf_iff_prefix.1 hp, by omega⟩)
  · cases h

section Agreeing

variable (tr : Translation) {ctx ctx' : Context}

theorem substituteToken_congr (t : String) (h : ∀ n, MentionsKey n t.toList → ctx.value? n = ctx'.value? n) :
    substituteToken tr ctx t = substituteToken tr ctx' t := by
  unfold substituteToken
  dsimp only
  split
  · -- each match is `@data-` and its key, a run of the token
    rw [replaceMatches_congr dataMatchAt _ _ (dataPrefix <+: ·) dataMatchAt_starts]
    intro m hsub hpre
    have hkey : MentionsKey (String.ofList (m.drop dataPrefix.length)) t.toList := by
      have hm : dataPrefix ++ m.drop dataPrefix.length = m := List.prefix_iff_eq_append.1 hpre
      unfold MentionsKey
      rw [String.toList_ofList, hm]
      exact hsub
    rw [h _ hkey]
  · rfl

/-- A text reads only the keys it mentions, whether it becomes a collection as a whole or is
substituted token by token. -/
theorem substitute_congr (raw : String) (h : ∀ n, MentionsKey n raw.toList → ctx.value? n = ctx'.value? n) :
    substitute tr ctx raw = substitute tr ctx' raw := by
  have htokens : ((raw.toList.splitOn ' ').map String.ofList).filterMap (substituteToken tr ctx) =
      ((raw.toList.splitOn ' ').map String.ofList).filterMap (substituteToken tr ctx') := by
    apply List.filterMap_congr
    intro t ht
    obtain ⟨u, hu, rfl⟩ := List.mem_map.1 ht
    rw [List.splitOn_eq_splitOnP] at hu
    have hinfix : u <:+: raw.toList := (splitOnP_pieces _ raw.toList).1 u hu
    exact substituteToken_congr tr _ fun n hn => h n (hn.mono (by rw [String.toList_ofList]; exact hinfix))
  unfold substitute
  dsimp only
  by_cases hc : (dataPrefix.isPrefixOf raw.toList && (dataKey (raw.toList.drop dataPrefix.length)).2.isEmpty) = true
  · -- the whole text is one directive: its key is everything after the prefix
    have hpre : dataPrefix <+: raw.toList := List.isPrefixOf_iff_prefix.1 (Bool.and_eq_true_iff.1 hc).1
    have hkey : MentionsKey (String.ofList (raw.toList.drop dataPrefix.length)) raw.toList := by
      unfold MentionsKey
      rw [String.toList_ofList]
      exact ⟨[], [], by rw [List.nil_append, List.append_nil]; exact List.prefix_iff_eq_append.1 hpre⟩
    rw [if_pos hc, if_pos hc, h _ hkey, htokens]
  · rw [if_neg hc, if_neg hc, htokens]

/-- An attribute mentions `n` when `@data-n` occurs in its name or in its value, if a text. -/
def AttributeMentions (n : String) (a : String × Value) : Prop :=
  MentionsKey n a.1.toList ∨ ∃ raw, a.2 = .string raw ∧ MentionsKey n raw.toList

/-- Against two non-empty contexts, attributes read only the keys they mention. -/
theorem transformAttributes_congr (attrs : Attributes) (hc : ctx.isEmpty = false) (hc' : ctx'.isEmpty = false)
    (h : ∀ n, (∃ a ∈ attrs, AttributeMentions n a) → ctx.value? n = ctx'.value? n) :
    transformAttributes tr attrs ctx = transformAttributes tr attrs ctx' := by
  unfold transformAttributes
  simp only [hc, hc', Bool.false_or]
  split
  · rfl
  · apply List.foldl_ext
    rintro out ⟨name, value⟩ hmem
    dsimp only
    split
    · -- a spread: the key is the rest of the name after `@data-`
      next key hkey =>
      have hn : MentionsKey (String.ofList key) name.toList := by
        unfold MentionsKey
        rw [String.toList_ofList]
        exact afterInfix_occurs _ _ _ hkey
      rw [h _ ⟨_, hmem, Or.inl hn⟩]
    · split
      · rfl
      · cases value with
        | string raw =>
          dsimp only
          rw [substitute_congr tr raw fun n hn => h n ⟨_, hmem, Or.inr ⟨raw, rfl, hn⟩⟩]
        | _ => rfl

end Agreeing

end Stencil
