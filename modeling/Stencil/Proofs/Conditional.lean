/-
`If` on a data directive. Binding applies the directives of an element's attributes before the
`If` tests its subject, and a value that is exactly `@data-k` becomes, for anything but a list or
a map, the text of `k`'s value. So against a non-empty context the built `If` of
`context="@data-k"` shows its children exactly when `k` holds a list, a map, or a value whose
text is non-empty and is neither `undefined` nor `null` (`dataSubjectShows`): `false` and `0`
show them, as the texts `false` and `0` do. With `is="true"` the operand is the boolean `true`,
which no text and no collection equals, so that `If` shows nothing whatever `k` holds
(`Builder.dataIf_binds`).
-/
import Stencil.Proofs.Binding
import Stencil.Proofs.Directive
import Stencil.Engine
import Stencil.Proofs.Build

namespace Stencil

/-! ## Building an `If` -/

theorem dataText_toList (k : String) :
    ("@data-" ++ k).toList = '@' :: 'd' :: 'a' :: 't' :: 'a' :: '-' :: k.toList := by
  rw [String.toList_append]
  rfl

theorem coerceBool_dataText (k : String) : coerceBool ("@data-" ++ k) = none := by
  have hne : ∀ w : String, w.toList.head? ≠ some '@' → ("@data-" ++ k == w) = false := by
    intro w hw
    rw [beq_eq_false_iff_ne]
    rintro rfl
    rw [dataText_toList] at hw
    exact hw rfl
  simp [coerceBool, hne "true" (by decide), hne "false" (by decide)]

theorem langKey_dataText (k : String) : langKey ("@data-" ++ k) = none := by
  have hblanks : Text.dropBlanks ("@data-" ++ k).toList = ("@data-" ++ k).toList := by
    rw [dataText_toList]
    simp [Text.dropBlanks, Text.isBlank]
  rw [langKey, hblanks, dataText_toList]
  rfl

theorem normalizeAttributes_dataContext (tr : Translator) (domain k : String) :
    normalizeAttributes tr domain [("context", "@data-" ++ k)] "If" =
      [("context", .string ("@data-" ++ k))] := by
  have hname : hostAttributeName "context" = none := by decide
  simp [normalizeAttributes, coerceBool_dataText, langKey_dataText, Keyed.insert, hname]

theorem normalizeAttributes_dataContext_is (tr : Translator) (domain k : String) :
    normalizeAttributes tr domain [("context", "@data-" ++ k), ("is", "true")] "If" =
      [("context", .string ("@data-" ++ k)), ("is", .bool true)] := by
  have hname : hostAttributeName "context" = none := by decide
  have hname' : hostAttributeName "is" = none := by decide
  have hord : ¬ "is" < "context" := by decide
  have htrue : coerceBool "true" = some true := by decide
  simp [normalizeAttributes, coerceBool_dataText, langKey_dataText, Keyed.insert, hname, hname', hord, htrue]

/-- A raw `If` builds into one conditional element that keeps the first key and holds its built
children, when the registry's `If` is the built-in one. -/
theorem Builder.buildNode_if (bld : Builder) (hIf : bld.registry.get? "If" = some ⟨"If", .conditional, [], []⟩)
    (parent : Option String) (attrs : List (String × String)) (rs : List Markup.RawNode) (key : Nat) :
    (bld.buildNode parent ⟨.tag, "If", "", attrs, rs⟩).run key =
      (some (.element ⟨"If", .conditional, Keyed.extend [] (normalizeAttributes bld.translator bld.domain attrs "If"),
        ((bld.buildNodes (some "If") rs).run (key + 1)).1, key⟩), ((bld.buildNodes (some "If") rs).run (key + 1)).2) := by
  simp only [Builder.buildNode, normalize, bind_assoc, pure_bind, hIf, Component.instantiate_bare]
  rfl

/-! ## Binding an `If` on a data directive -/

theorem hasDirective_dataText (k : String) : hasDirective ("@data-" ++ k) = true := by
  have hinfix : hasInfix dataPrefix ("@data-" ++ k).toList = true := by
    rw [hasInfix_iff, String.toList_append]
    exact (List.prefix_append _ _).isInfix
  simp only [hasDirective, hinfix, Bool.true_or]

section Substituted

variable (tr : Translation) (ctx : Context) (hctx : ctx.isEmpty = false) (k : String)
include hctx

theorem transformAttributes_dataContext :
    transformAttributes tr [("context", .string ("@data-" ++ k))] ctx =
      [("context", substitute tr ctx ("@data-" ++ k))] := by
  have hname : afterInfix dataPrefix "context".toList = none := by decide
  unfold transformAttributes
  rw [if_neg (by simp [hctx])]
  simp only [List.foldl_cons, List.foldl_nil]
  rw [hname]
  simp [hasDirective_dataText, Keyed.insert]

theorem transformAttributes_dataContext_is (w : Value) (hw : ∀ t, w ≠ .string t) :
    transformAttributes tr [("context", .string ("@data-" ++ k)), ("is", w)] ctx =
      [("context", substitute tr ctx ("@data-" ++ k)), ("is", w)] := by
  have hname : afterInfix dataPrefix "context".toList = none := by decide
  have hname' : afterInfix dataPrefix "is".toList = none := by decide
  unfold transformAttributes
  rw [if_neg (by simp [hctx])]
  simp only [List.foldl_cons, List.foldl_nil]
  rw [hname, hname']
  cases w with
  | string t => exact absurd rfl (hw t)
  | _ => simp [hasDirective_dataText, Keyed.insert]

end Substituted

/-- Whether an `If` on `@data-k` without an operator shows its children, given the value of `k`:
always for a list or a map, and for anything else when its text is non-empty and neither
`undefined` nor `null`. -/
def dataSubjectShows : Option Value → Bool
  | some (.list _) | some (.map _) => true
  | v =>
    let t := (v.bind Value.display).getD ""
    !t.isEmpty && t != "undefined" && t != "null"

theorem text_subject_shows (t : String) :
    (isAbsentMarker (some (.string t)) = false ∧ Condition.truthy.holds (.string t) = true) ↔
      (!t.isEmpty && t != "undefined" && t != "null") = true := by
  simp only [isAbsentMarker, Condition.holds, Value.isTruthy, Bool.or_eq_false_iff, Bool.and_eq_true]
  constructor
  · rintro ⟨⟨hu, hn⟩, he⟩
    exact ⟨⟨he, by simpa using hu⟩, by simpa using hn⟩
  · rintro ⟨⟨he, hu⟩, hn⟩
    exact ⟨⟨by simpa using hu, by simpa using hn⟩, he⟩

/-- A substituted subject is present and truthy exactly when `dataSubjectShows` says so. -/
theorem directiveValue_shows (v : Option Value) :
    (isAbsentMarker (some (directiveValue v)) = false ∧ Condition.truthy.holds (directiveValue v) = true) ↔
      dataSubjectShows v = true := by
  -- a list or a map is kept and always shows; anything else is read as its text
  match v with
  | some (.list _) | some (.map _) => simp [directiveValue, dataSubjectShows, isAbsentMarker, Condition.holds, Value.isTruthy]
  | none | some .null | some (.bool _) | some (.number _) | some (.string _) | some (.handler _) =>
    exact text_subject_shows _

theorem directiveValue_ne_true (v : Option Value) : Condition.holds (.is (.bool true)) (directiveValue v) = false := by
  cases v with
  | none => rfl
  | some v => cases v <;> rfl

theorem ofAttributes_context (v : Value) : Condition.ofAttributes [("context", v)] = .truthy := by
  simp [Condition.ofAttributes, Condition.operators, Keyed.get?]

theorem ofAttributes_context_is (v w : Value) :
    Condition.ofAttributes [("context", v), ("is", w)] = .is w := by
  simp [Condition.ofAttributes, Condition.operators, Keyed.get?]

/-- An `If` on a data directive, built and bound. Against a non-empty context, and with the
built-in `If`, the element built from `<If context="@data-k">` shows its children, bound against
that context, exactly when `dataSubjectShows` holds of the value of `k`, and renders nothing
otherwise; the one built from `<If context="@data-k" is="true">` renders nothing whatever `k`
holds. -/
theorem Builder.dataIf_binds (bld : Builder) (hIf : bld.registry.get? "If" = some ⟨"If", .conditional, [], []⟩)
    (b : Binder) (ctx : Context) (hctx : ctx.isEmpty = false) {k : String}
    (hk : ' ' ∉ k.toList ∧ '&' ∉ k.toList) (parent : Option String) (rs : List Markup.RawNode)
    (key d : Nat) (s : Session) :
    (((bld.buildNode parent ⟨.tag, "If", "", [("context", "@data-" ++ k)], rs⟩).run key).1.map
        fun n => (b.bindNode ctx d n).run s) =
      some (if dataSubjectShows (ctx.value? k) then
        (.fragment ((b.bindNodes ctx d ((bld.buildNodes (some "If") rs).run (key + 1)).1).run s).1,
          ((b.bindNodes ctx d ((bld.buildNodes (some "If") rs).run (key + 1)).1).run s).2)
      else (.empty, s)) ∧
    (((bld.buildNode parent ⟨.tag, "If", "", [("context", "@data-" ++ k), ("is", "true")], rs⟩).run key).1.map
        fun n => (b.bindNode ctx d n).run s) = some (.empty, s) := by
  have hsub := substitute_directive b.translation ctx hk
  refine ⟨?_, ?_⟩
  · have hext : Keyed.extend [] [("context", Value.string ("@data-" ++ k))] =
        [("context", .string ("@data-" ++ k))] := rfl
    rw [bld.buildNode_if hIf, normalizeAttributes_dataContext, hext, Option.map_some,
      Binder.bindNode_conditional_run, transformAttributes_dataContext _ _ hctx, Binder.evaluateIf_run, hsub,
      ofAttributes_context]
    simp only [Keyed.get?, if_true, Option.getD_some, directiveValue_shows]
  · have hord : ¬ "is" < "context" := by decide
    have hext : Keyed.extend [] [("context", Value.string ("@data-" ++ k)), ("is", .bool true)] =
        [("context", .string ("@data-" ++ k)), ("is", .bool true)] := by
      simp [Keyed.extend, Keyed.insert, hord]
    rw [bld.buildNode_if hIf, normalizeAttributes_dataContext_is, hext, Option.map_some,
      Binder.bindNode_conditional_run, transformAttributes_dataContext_is _ _ hctx _ _ (fun _ h => by cases h),
      Binder.evaluateIf_run, hsub, ofAttributes_context_is]
    -- the subject is never the boolean true, so the test fails whatever k holds
    simp only [Keyed.get?, if_true, Option.getD_some, directiveValue_ne_true, Bool.false_eq_true, and_false,
      if_false]

/-- Against `{"flag": false}`, `<If context="@data-flag">C</If>` shows `C`: the subject became the
text `false`, which is truthy. -/
theorem falseFlag_if_shows :
    (((Engine.standard.builder.buildNode none
        ⟨.tag, "If", "", [("context", "@data-flag")], [⟨.text, "", "C", [], []⟩]⟩).run 1).1.map
      fun n => (Engine.standard.binder.bindNode (Context.empty.insert "flag" (.bool false)) 0 n).run Session.fresh) =
      some (.fragment [.text "C"], Session.fresh) := by
  have h := (Builder.dataIf_binds Engine.standard.builder rfl Engine.standard.binder
    (Context.empty.insert "flag" (.bool false)) rfl (k := "flag") (by decide) none
    [⟨.text, "", "C", [], []⟩] 1 0 Session.fresh).1
  have hshows : dataSubjectShows ((Context.empty.insert "flag" (.bool false)).value? "flag") = true := by decide
  have hbuilt : (Engine.standard.builder.buildNodes (some "If") [⟨.text, "", "C", [], []⟩]).run (1 + 1) =
      ([.text "C"], 2) := rfl
  rw [if_pos hshows, hbuilt] at h
  rw [show "@data-flag" = "@data-" ++ "flag" by decide, h]
  simp [Binder.bindNodes_cons_run]

end Stencil
