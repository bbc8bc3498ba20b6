/-
`Data` on a data directive. Binding applies the directives of an element's attributes before the
`Data` reads its `value`, and a value that is exactly `@data-k` becomes, when `k` holds a list or a
map, that collection itself. So the built `Data` of `value="@data-k"`, with children that build into
something, repeats them once per item of the list, in list order, each bound against a context that
holds only the item as `value`, and once per entry of the map, in the map's key order, against
`name` and `value` (`Builder.dataDirective_iterates`). Each repetition sits in its own fragment and
starts from the session the one before it left.
-/
import Stencil.Proofs.Conditional
import Stencil.Proofs.Substitution

namespace Stencil

/-! ## Building a `Data` -/

theorem Builder.buildNode_bare (bld : Builder) {name : String} {kind : Kind}
    (h : bld.registry.get? name = some ⟨name, kind, [], []⟩) (parent : Option String)
    (attrs : List (String × String)) (rs : List Markup.RawNode) (key : Nat) :
    (bld.buildNode parent ⟨.tag, name, "", attrs, rs⟩).run key =
      (some (.element ⟨name, kind, Keyed.extend [] (normalizeAttributes bld.translator bld.domain attrs name),
        ((bld.buildNodes (some name) rs).run (key + 1)).1, key⟩), ((bld.buildNodes (some name) rs).run (key + 1)).2) := by
  simp only [Builder.buildNode, normalize, bind_assoc, pure_bind, h, Component.instantiate_bare]
  rfl

/-- Building reads `value="@data-k"` of a `Data` as the text: `Data` is no form control, so the
name stays `value`. -/
theorem normalizeAttributes_dataValue (tr : Translator) (domain k : String) :
    normalizeAttributes tr domain [("value", "@data-" ++ k)] "Data" =
      [("value", .string ("@data-" ++ k))] := by
  have hname : hostAttributeName "value" = none := by decide
  have hcontrol : "Data" ∉ formControls := by decide
  simp [normalizeAttributes, coerceBool_dataText, langKey_dataText, Keyed.insert, hname, hcontrol]

/-! ## Binding the `value` directive -/

theorem Context.isEmpty_of_value? {c : Context} {k : String} {v : Value} (h : c.value? k = some v) :
    c.isEmpty = false := by
  obtain ⟨entries⟩ := c
  cases entries with
  | nil => simp [Context.value?, Context.get?, Keyed.get?] at h
  | cons e es => rfl

theorem transformAttributes_dataValue (tr : Translation) (ctx : Context) {k : String}
    (hk : ' ' ∉ k.toList ∧ '&' ∉ k.toList) {v : Value} (hv : ctx.value? k = some v)
    (hcol : v.collection? = some v) :
    transformAttributes tr [("value", .string ("@data-" ++ k))] ctx = [("value", v)] := by
  have hname : hasInfix dataPrefix "value".toList = false := by decide
  rw [transformAttributes_single tr ctx "value" _ (Context.isEmpty_of_value? hv) hname (by decide)
    (hasDirective_dataText k), substitute_directive tr ctx hk, hv]
  -- a collection is kept as it is; nothing else is one
  cases v <;> first | rfl | cases hcol

/-- A `Data` whose `value` is a list binds its children, when it has some, once per item, each in
a fragment against a context of that item alone. -/
theorem Binder.bindNode_data_list (b : Binder) (ctx : Context) (d : Nat) (s : Session) {k : String}
    (hk : ' ' ∉ k.toList ∧ '&' ∉ k.toList) {xs : List Value} (hxs : ctx.value? k = some (.list xs))
    (key : Nat) {children : List Node} (hC : children ≠ []) :
    (b.bindNode ctx d (.element ⟨"Data", .iteration, [("value", .string ("@data-" ++ k))], children, key⟩)).run s =
      (Rendered.fragment <$> xs.mapM fun x =>
        Rendered.fragment <$> b.bindNodes (Context.empty.insert "value" x) d children).run s := by
  rw [Binder.bindNode_iteration_run, transformAttributes_dataValue _ _ hk hxs rfl, Keyed.get?, if_pos rfl,
    Binder.iterate_list_run, if_neg (by simpa using hC)]
  rfl

/-- A `Data` whose `value` is a map binds its children, when it has some, once per entry in the
map's order, each in a fragment against a context of the entry's `name` and `value`. -/
theorem Binder.bindNode_data_map (b : Binder) (ctx : Context) (d : Nat) (s : Session) {k : String}
    (hk : ' ' ∉ k.toList ∧ '&' ∉ k.toList) {m : List (String × Value)} (hm : ctx.value? k = some (.map m))
    (key : Nat) {children : List Node} (hC : children ≠ []) :
    (b.bindNode ctx d (.element ⟨"Data", .iteration, [("value", .string ("@data-" ++ k))], children, key⟩)).run s =
      (Rendered.fragment <$> m.mapM fun e =>
        Rendered.fragment <$> b.bindNodes ((Context.empty.insert "name" (.string e.1)).insert "value" e.2) d
          children).run s := by
  rw [Binder.bindNode_iteration_run, transformAttributes_dataValue _ _ hk hm rfl, Keyed.get?, if_pos rfl,
    Binder.iterate_map_run, if_neg (by simpa using hC)]
  rfl

/-! ## The built `Data` -/

/-- A `Data` on a data directive, built and bound. With the built-in `Data`, the element built from
`<Data value="@data-k">` with children that build into something binds, where `k` holds a list,
into a fragment of one fragment per item, in list order, the children bound against a context
holding only that item as `value`; and where `k` holds a map, one per entry in the map's order,
which is key order, against the entry's key as `name` and its value as `value`. -/
theorem Builder.dataDirective_iterates (bld : Builder)
    (hData : bld.registry.get? "Data" = some ⟨"Data", .iteration, [], []⟩) (b : Binder) (ctx : Context)
    {k : String} (hk : ' ' ∉ k.toList ∧ '&' ∉ k.toList) (parent : Option String) (rs : List Markup.RawNode)
    (key d : Nat) (s : Session) (hC : ((bld.buildNodes (some "Data") rs).run (key + 1)).1 ≠ []) :
    (∀ xs, ctx.value? k = some (.list xs) →
      ((bld.buildNode parent ⟨.tag, "Data", "", [("value", "@data-" ++ k)], rs⟩).run key).1.map
          (fun n => (b.bindNode ctx d n).run s) =
        some ((Rendered.fragment <$> xs.mapM fun x =>
          Rendered.fragment <$> b.bindNodes (Context.empty.insert "value" x) d
            ((bld.buildNodes (some "Data") rs).run (key + 1)).1).run s)) ∧
    (∀ m, ctx.value? k = some (.map m) →
      ((bld.buildNode parent ⟨.tag, "Data", "", [("value", "@data-" ++ k)], rs⟩).run key).1.map
          (fun n => (b.bindNode ctx d n).run s) =
        some ((Rendered.fragment <$> m.mapM fun e =>
          Rendered.fragment <$> b.bindNodes ((Context.empty.insert "name" (.string e.1)).insert "value" e.2) d
            ((bld.buildNodes (some "Data") rs).run (key + 1)).1).run s)) := by
  have hext : Keyed.extend [] [("value", Value.string ("@data-" ++ k))] = [("value", .string ("@data-" ++ k))] :=
    rfl
  rw [bld.buildNode_bare hData, normalizeAttributes_dataValue, hext, Option.map_some]
  exact ⟨fun xs hxs => congrArg some (b.bindNode_data_list ctx d s hk hxs key hC),
    fun m hm => congrArg some (b.bindNode_data_map ctx d s hk hm key hC)⟩

/-- Against `{"items": ["a", "b"]}`, `<Data value="@data-items">x</Data>` shows `x` once per item. -/
theorem itemsData_repeats_children :
    (((Engine.standard.builder.buildNode none
        ⟨.tag, "Data", "", [("value", "@data-items")], [⟨.text, "", "x", [], []⟩]⟩).run 1).1.map
      fun n => (Engine.standard.binder.bindNode
        (Context.empty.insert "items" (.list [.string "a", .string "b"])) 0 n).run Session.fresh) =
      some (.fragment [.fragment [.text "x"], .fragment [.text "x"]], Session.fresh) := by
  have hbuilt : (Engine.standard.builder.buildNodes (some "Data") [⟨.text, "", "x", [], []⟩]).run (1 + 1) =
      ([.text "x"], 2) := rfl
  have h := (Builder.dataDirective_iterates Engine.standard.builder rfl Engine.standard.binder
    (Context.empty.insert "items" (.list [.string "a", .string "b"])) (k := "items") (by decide) none
    [⟨.text, "", "x", [], []⟩] 1 0 Session.fresh (by rw [hbuilt]; simp)).1 [.string "a", .string "b"] rfl
  rw [show "@data-items" = "@data-" ++ "items" by decide, h, hbuilt]
  simp [Binder.bindNodes_cons_run]
  rfl

end Stencil
