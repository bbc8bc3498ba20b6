/-
Whole values and tokens. A text holding a directive becomes, as a whole, the list or map bound to
its key when it is one data directive, and otherwise the text of its token-wise substitution. The
whole-value test is the data pattern of the token path matching the whole text
(`substitute_eq_whole`). That pattern lets a key start with any character, a space included, so
the two paths agree on which texts are one directive, and on its key, for every text but those
whose key starts with a space, which the token path splits into two tokens
(`transformAttributes_single_directive`).
-/
import Stencil.Proofs.Directive

namespace Stencil

/-- The list or map a value is, if it is one. -/
def Value.collection? : Value → Option Value
  | .list items => some (.list items)
  | .map entries => some (.map entries)
  | _ => none

/-- Token-wise substitution: the text split at every space, each token substituted and dropped when
a lookup misses, empty tokens removed, the rest joined with single spaces. -/
def tokenwise (tr : Translation) (ctx : Context) (raw : String) : String :=
  " ".intercalate ((((raw.toList.splitOn ' ').map String.ofList).filterMap (substituteToken tr ctx)).filter
    (!·.isEmpty))

/-- The key of a text that is one space-free token made of exactly one data directive, as the token
path reads directives: the data pattern matched at its start covers it whole. -/
def singleDirectiveKey? (raw : String) : Option String :=
  if ' ' ∉ raw.toList ∧ dataMatchAt raw.toList = some raw.toList.length then
    some (String.ofList (raw.toList.drop dataPrefix.length))
  else none

/-! ## The data pattern matching a whole text -/

theorem dataKey_append : ∀ ks : List Char, (dataKey ks).1 ++ (dataKey ks).2 = ks
  | [] => rfl
  | c :: rest => by
    simp only [dataKey, List.span_eq_takeWhile_dropWhile]
    split <;> simp

theorem dataKey_rest_eq_nil {c : Char} {rest : List Char} (h : (dataKey (c :: rest)).2 = []) :
    ∀ d ∈ rest, endsKey d = false := by
  simp only [dataKey, List.span_eq_takeWhile_dropWhile] at h
  split at h
  · -- a line feed starts the run itself
    rw [List.dropWhile_eq_nil_iff] at h
    intro d hd
    simpa using h d (List.mem_cons_of_mem _ hd)
  · rw [List.dropWhile_eq_nil_iff] at h
    intro d hd
    simpa using h d hd

/-- The data pattern matches a whole text exactly when the text starts with `@data-` and the key
read after it runs to the end. -/
theorem dataMatchAt_eq_length_iff (cs : List Char) :
    dataMatchAt cs = some cs.length ↔ dataPrefix <+: cs ∧ (dataKey (cs.drop dataPrefix.length)).2 = [] := by
  unfold dataMatchAt
  split
  · next hp =>
    have hpre := List.isPrefixOf_iff_prefix.1 hp
    have hlen := congrArg List.length (dataKey_append (cs.drop dataPrefix.length))
    have hcs : cs.length = dataPrefix.length + (cs.drop dataPrefix.length).length := by
      have := hpre.length_le
      rw [List.length_drop]
      omega
    rw [List.length_append] at hlen
    rw [Option.some.injEq, ← List.length_eq_zero_iff]
    simp only [hpre, true_and]
    omega
  · next hp =>
    simp only [reduceCtorEq, false_iff, not_and]
    exact fun h => absurd (List.isPrefixOf_iff_prefix.2 h) hp

theorem space_not_mem_of_whole {cs : List Char} (h : dataMatchAt cs = some cs.length)
    (hsp : ¬ "@data- ".toList <+: cs) : ' ' ∉ cs := by
  obtain ⟨hpre, hrest⟩ := (dataMatchAt_eq_length_iff cs).1 h
  obtain ⟨ks, rfl⟩ := hpre
  rw [List.drop_left] at hrest
  cases ks with
  | nil => decide
  | cons c rest =>
    have hc : c ≠ ' ' := by
      rintro rfl
      exact hsp ⟨rest, rfl⟩
    have hrest' := dataKey_rest_eq_nil hrest
    intro hmem
    simp only [dataPrefix, List.mem_append, List.mem_cons] at hmem
    rcases hmem with hpre | rfl | hmem
    · revert hpre; decide
    · exact hc rfl
    · simpa [endsKey] using hrest' ' ' hmem

/-! ## Substitution -/

/-- A text becomes the list or map bound to its key when the data pattern matches it whole, and
otherwise the text of its token-wise substitution. -/
theorem substitute_eq_whole (tr : Translation) (ctx : Context) (raw : String) :
    substitute tr ctx raw =
      ((if dataMatchAt raw.toList = some raw.toList.length then
          (ctx.value? (String.ofList (raw.toList.drop dataPrefix.length))).bind Value.collection?
        else none).getD (.string (tokenwise tr ctx raw))) := by
  have htest : (dataPrefix.isPrefixOf raw.toList && (dataKey (raw.toList.drop dataPrefix.length)).2.isEmpty) =
      decide (dataMatchAt raw.toList = some raw.toList.length) := by
    rw [Bool.eq_iff_iff, Bool.and_eq_true, List.isPrefixOf_iff_prefix, List.isEmpty_iff, decide_eq_true_iff,
      dataMatchAt_eq_length_iff]
  unfold substitute
  simp only [htest, decide_eq_true_eq]
  by_cases hm : dataMatchAt raw.toList = some raw.toList.length
  · simp only [hm, if_true]
    cases ctx.value? (String.ofList (raw.toList.drop dataPrefix.length)) with
    | none => rfl
    | some v => cases v <;> rfl
  · simp only [hm, if_false]
    rfl

theorem transformAttributes_single (tr : Translation) (ctx : Context) (name raw : String)
    (hctx : ctx.isEmpty = false) (hname : hasInfix dataPrefix name.toList = false) (hch : name ≠ "children")
    (hdir : hasDirective raw = true) :
    transformAttributes tr [(name, .string raw)] ctx = [(name, substitute tr ctx raw)] := by
  unfold transformAttributes
  simp only [hctx, List.isEmpty_cons, Bool.or_false, Bool.false_eq_true, if_false, List.foldl_cons,
    List.foldl_nil, (afterInfix_eq_none dataPrefix name.toList).2 hname, hdir, if_true, beq_iff_eq, hch, if_false]
  simp [Keyed.insert]

/-- What an attribute's directive-holding text is replaced by, for a text whose key does not start
with a space. It becomes the list or map bound to its key exactly when it is one space-free token
made of exactly one data directive, as the token path reads them, its key being the text after
`@data-`; in every other case it becomes the text of its token-wise substitution. -/
theorem transformAttributes_single_directive (tr : Translation) (ctx : Context) (name raw : String)
    (hctx : ctx.isEmpty = false) (hname : hasInfix dataPrefix name.toList = false) (hch : name ≠ "children")
    (hdir : hasDirective raw = true) (hsp : ¬ "@data- ".toList <+: raw.toList) :
    transformAttributes tr [(name, .string raw)] ctx =
      [(name, (((singleDirectiveKey? raw).bind ctx.value?).bind Value.collection?).getD
        (.string (tokenwise tr ctx raw)))] := by
  rw [transformAttributes_single tr ctx name raw hctx hname hch hdir, substitute_eq_whole]
  unfold singleDirectiveKey?
  by_cases hm : dataMatchAt raw.toList = some raw.toList.length
  · -- a whole match is space-free, as its key does not start with a space
    simp [hm, space_not_mem_of_whole hm hsp]
  · simp [hm]

/-- A value that is exactly `@data-items`, with `items` bound to a list, becomes that list. -/
theorem items_value_keeps_list :
    transformAttributes ⟨.keys, defaultDomain⟩ [("value", .string "@data-items")]
        ⟨[("items", .value (.list [.number 1, .number 2]))]⟩ =
      [("value", .list [.number 1, .number 2])] := by
  rw [transformAttributes_single_directive _ _ "value" "@data-items" rfl (by decide) (by decide) (by decide)
    (by decide)]
  rfl

end Stencil
