/-
Style maps. Building reads a `style` attribute `{prop: value, ...}` into a map by `parseStyle`: braces
are dropped, the text is cut at every comma, and each pair is cut at its first colon and trimmed.
A map whose properties are non-empty, have no blank at either end and hold none of `:`, `,`, `{`,
`}`, and whose values have no blank at either end and hold none of `,`, `{`, `}` (`StyleEntry`), is
read back from its rendering `styleText`; and every map that `parseStyle` gives is such a map, so
reading is a left inverse of rendering on everything it gives (`parseStyle_styleText`).
-/
import Stencil.Proofs.Registry
import Stencil.Proofs.Directive
import Stencil.Node.Shape

namespace Stencil

/-! ## Rendering a style map -/

/-- A style map written as `{prop: value, ...}`, its entries in order. -/
def styleText (m : List (String × String)) : String :=
  "\x7b" ++ ", ".intercalate (m.map fun e => e.1 ++ ": " ++ e.2) ++ "\x7d"

/-- Neither end of a text is blank. -/
def Unpadded (cs : List Char) : Prop :=
  (∀ c ∈ cs.head?, Text.isBlank c = false) ∧ ∀ c ∈ cs.getLast?, Text.isBlank c = false

/-- An entry of a style map that its rendering reads back. -/
structure StyleEntry (e : String × String) : Prop where
  property_ne : e.1 ≠ ""
  property_unpadded : Unpadded e.1.toList
  property_chars : ∀ c ∈ e.1.toList, c ≠ ':' ∧ c ≠ ',' ∧ c ≠ '{' ∧ c ≠ '}'
  value_unpadded : Unpadded e.2.toList
  value_chars : ∀ c ∈ e.2.toList, c ≠ ',' ∧ c ≠ '{' ∧ c ≠ '}'

-- The bounded quantifiers over characters are decided through the list and the option, never by
-- running through every character.
instance (cs : List Char) : Decidable (Unpadded cs) :=
  haveI : Decidable (∀ c ∈ cs.head?, Text.isBlank c = false) := Option.decidableForallMem _
  haveI : Decidable (∀ c ∈ cs.getLast?, Text.isBlank c = false) := Option.decidableForallMem _
  inferInstanceAs (Decidable (_ ∧ _))

instance (e : String × String) : Decidable (StyleEntry e) :=
  haveI : Decidable (∀ c ∈ e.1.toList, c ≠ ':' ∧ c ≠ ',' ∧ c ≠ '{' ∧ c ≠ '}') := List.decidableBAll _ _
  haveI : Decidable (∀ c ∈ e.2.toList, c ≠ ',' ∧ c ≠ '{' ∧ c ≠ '}') := List.decidableBAll _ _
  decidable_of_iff (e.1 ≠ "" ∧ Unpadded e.1.toList ∧ (∀ c ∈ e.1.toList, c ≠ ':' ∧ c ≠ ',' ∧ c ≠ '{' ∧ c ≠ '}') ∧
      Unpadded e.2.toList ∧ ∀ c ∈ e.2.toList, c ≠ ',' ∧ c ≠ '{' ∧ c ≠ '}')
    ⟨fun ⟨h1, h2, h3, h4, h5⟩ => ⟨h1, h2, h3, h4, h5⟩, fun h => ⟨h.1, h.2, h.3, h.4, h.5⟩⟩

/-- The characters of one rendered pair: the property, a colon and a space, the value. -/
def stylePair (e : String × String) : List Char := e.1.toList ++ ':' :: ' ' :: e.2.toList

theorem StyleEntry.stylePair_chars {e : String × String} (he : StyleEntry e) :
    ∀ c ∈ stylePair e, c ≠ ',' ∧ c ≠ '{' ∧ c ≠ '}' := by
  intro c hc
  simp only [stylePair, List.mem_append, List.mem_cons] at hc
  rcases hc with hc | rfl | rfl | hc
  · exact (he.property_chars c hc).2
  · decide
  · decide
  · exact he.value_chars c hc

theorem styleText_toList (m : List (String × String)) :
    (styleText m).toList = '{' :: [',', ' '].intercalate (m.map stylePair) ++ ['}'] := by
  have hpair : ∀ e : String × String, (e.1 ++ ": " ++ e.2).toList = stylePair e := by
    intro e
    simp only [String.toList_append, stylePair, List.append_assoc]
    rfl
  simp only [styleText, String.toList_append, String.toList_intercalate, List.map_map]
  simp only [Function.comp_def, hpair]
  rfl

/-! ## Trimming -/

namespace Text

theorem dropBlanks_eq_self {cs : List Char} (h : ∀ c ∈ cs.head?, isBlank c = false) : dropBlanks cs = cs := by
  cases cs with
  | nil => rfl
  | cons c cs => simp [dropBlanks, h c rfl]

theorem dropTrailingBlanks_eq_self {cs : List Char} (h : ∀ c ∈ cs.getLast?, isBlank c = false) :
    dropTrailingBlanks cs = cs := by
  rw [dropTrailingBlanks, dropBlanks_eq_self (by simpa using h), List.reverse_reverse]

theorem blank_space : ∀ c ∈ [' '], isBlank c = true := fun c hc => by
  rw [List.mem_singleton.1 hc]
  rfl

theorem trim_blanks_append {bs cs : List Char} (hbs : ∀ c ∈ bs, isBlank c = true) (hcs : Unpadded cs) :
    trim (String.ofList (bs ++ cs)) = String.ofList cs := by
  rw [trim, String.toList_ofList, dropBlanks, List.dropWhile_append_of_pos hbs, ← dropBlanks,
    dropBlanks_eq_self hcs.1, dropTrailingBlanks_eq_self hcs.2]

theorem dropTrailingBlanks_head {c : Char} (hc : isBlank c = false) (cs : List Char) :
    (dropTrailingBlanks (c :: cs)).head? = some c := by
  unfold dropTrailingBlanks dropBlanks
  rw [List.reverse_cons, List.dropWhile_append]
  split
  · simp [hc]
  · simp

theorem unpadded_trim (s : String) : Unpadded (trim s).toList := by
  rw [trim, String.toList_ofList]
  constructor
  · intro c hc
    cases hd : dropBlanks s.toList with
    | nil =>
      rw [hd] at hc
      simp [dropTrailingBlanks, dropBlanks] at hc
    | cons d ds =>
      have hd' := dropBlanks_head s.toList d (by simp [hd])
      rw [hd, dropTrailingBlanks_head hd' ds] at hc
      cases hc
      exact hd'
  · intro c hc
    rw [dropTrailingBlanks, List.getLast?_reverse] at hc
    exact dropBlanks_head _ c hc

theorem mem_of_mem_trim {s : String} {c : Char} (h : c ∈ (trim s).toList) : c ∈ s.toList := by
  rw [trim, String.toList_ofList, dropTrailingBlanks, List.mem_reverse] at h
  have h1 := (List.dropWhile_sublist _).subset h
  rw [List.mem_reverse] at h1
  exact (List.dropWhile_sublist _).subset h1

end Text

/-! ## One pair -/

/-- What `parseStyle` does with one pair: cut it at its first colon and trim both sides; no colon
or an empty property leaves the map as it is. -/
def styleStep (out : List (String × Value)) (pair : List Char) : List (String × Value) :=
  match pair.findIdx? (· == ':') with
  | none => out
  | some i =>
    let key := Text.trim (String.ofList (pair.take i))
    let value := Text.trim (String.ofList (pair.drop (i + 1)))
    if key.isEmpty then out else Keyed.insert out key (.string value)

theorem parseStyle_eq_foldl (s : String) :
    parseStyle s = ((s.toList.filter fun c => c != '{' && c != '}').splitOn ',').foldl styleStep [] := by
  rw [parseStyle]
  rfl

theorem findIdx?_colon {xs : List Char} (h : ∀ c ∈ xs, c ≠ ':') (rest : List Char) :
    (xs ++ ':' :: rest).findIdx? (· == ':') = some xs.length := by
  induction xs with
  | nil => simp [List.findIdx?_cons]
  | cons x xs ih =>
    rw [List.cons_append, List.findIdx?_cons, if_neg (by simpa using h x List.mem_cons_self),
      ih (fun c hc => h c (List.mem_cons_of_mem _ hc))]
    rfl

theorem styleStep_pair (out : List (String × Value)) {e : String × String} (he : StyleEntry e)
    {sp : List Char} (hsp : ∀ c ∈ sp, Text.isBlank c = true) :
    styleStep out (sp ++ stylePair e) = Keyed.insert out e.1 (.string e.2) := by
  have hcolon : ∀ c ∈ sp ++ e.1.toList, c ≠ ':' := by
    intro c hc
    rcases List.mem_append.1 hc with hc | hc
    · rintro rfl
      exact absurd (hsp ':' hc) (by decide)
    · exact (he.property_chars c hc).1
  have hkey : Text.trim (String.ofList (sp ++ e.1.toList)) = e.1 := by
    rw [Text.trim_blanks_append hsp he.property_unpadded, String.ofList_toList]
  have hvalue : Text.trim (String.ofList (' ' :: e.2.toList)) = e.2 := by
    rw [← List.singleton_append, Text.trim_blanks_append Text.blank_space he.value_unpadded, String.ofList_toList]
  have htake : ((sp ++ e.1.toList) ++ ':' :: ' ' :: e.2.toList).take (sp ++ e.1.toList).length =
      sp ++ e.1.toList := List.take_left
  have hdrop : ((sp ++ e.1.toList) ++ ':' :: ' ' :: e.2.toList).drop ((sp ++ e.1.toList).length + 1) =
      ' ' :: e.2.toList := by
    rw [← List.drop_drop, List.drop_left]
    rfl
  have hne : e.1.isEmpty = false := by simpa using he.property_ne
  rw [stylePair, ← List.append_assoc, styleStep, findIdx?_colon hcolon]
  simp only [htake, hdrop, hkey, hvalue, hne, Bool.false_eq_true, if_false]

theorem ne_colon_of_mem_take {pair : List Char} {i : Nat} (h : pair.findIdx? (· == ':') = some i) {c : Char}
    (hc : c ∈ pair.take i) : c ≠ ':' := by
  obtain ⟨hi, -, hbefore⟩ := List.findIdx?_eq_some_iff_getElem.1 h
  obtain ⟨j, hj, rfl⟩ := List.mem_take_iff_getElem.1 hc
  simpa using hbefore j (by omega)

/-! ## Rendered maps are read back -/

theorem mem_intercalate_cases {sep : List Char} {c : Char} :
    ∀ {ls : List (List Char)}, c ∈ sep.intercalate ls → c ∈ sep ∨ ∃ l ∈ ls, c ∈ l
  | [], h => by simp at h
  | [l], h => .inr ⟨l, List.mem_singleton_self _, by simpa using h⟩
  | l :: l' :: ls, h => by
    rw [List.intercalate_cons_cons, List.mem_append, List.mem_append] at h
    rcases h with (h | h) | h
    · exact .inr ⟨l, List.mem_cons_self, h⟩
    · exact .inl h
    · rcases mem_intercalate_cases h with h | ⟨l'', hl'', h⟩
      · exact .inl h
      · exact .inr ⟨l'', List.mem_cons_of_mem _ hl'', h⟩

/-- The braces of a rendering are only its first and last characters. -/
theorem stripped_styleText {m : List (String × String)} (hm : ∀ e ∈ m, StyleEntry e) :
    (styleText m).toList.filter (fun c => c != '{' && c != '}') = [',', ' '].intercalate (m.map stylePair) := by
  have hbody : ∀ c ∈ [',', ' '].intercalate (m.map stylePair), (c != '{' && c != '}') = true := by
    intro c hc
    rcases mem_intercalate_cases hc with hc | ⟨l, hl, hc⟩
    · simp only [List.mem_cons, List.not_mem_nil, or_false] at hc
      rcases hc with rfl | rfl <;> rfl
    · obtain ⟨e, he, rfl⟩ := List.mem_map.1 hl
      obtain ⟨-, hopen, hclose⟩ := (hm e he).stylePair_chars c hc
      simp [hopen, hclose]
  rw [styleText_toList, List.filter_append, List.filter_cons_of_neg (by decide), List.filter_eq_self.2 hbody]
  simp

theorem intercalate_commaSpace (l : List Char) (ls : List (List Char)) :
    [',', ' '].intercalate (l :: ls) = [','].intercalate (l :: ls.map (' ' :: ·)) := by
  induction ls generalizing l with
  | nil => simp
  | cons l' ls ih =>
    rw [List.intercalate_cons_cons, ih l', List.map_cons, List.intercalate_cons_cons,
      List.intercalate_cons_cons_left]
    simp

/-- Pairs led by a space are read entry by entry. -/
theorem foldl_styleStep_pairs {es : List (String × String)} (hes : ∀ e ∈ es, StyleEntry e)
    (acc : List (String × Value)) :
    (es.map fun e => ' ' :: stylePair e).foldl styleStep acc =
      es.foldl (fun out e => Keyed.insert out e.1 (.string e.2)) acc := by
  induction es generalizing acc with
  | nil => rfl
  | cons e es ih =>
    rw [List.map_cons, List.foldl_cons, List.foldl_cons, ← List.singleton_append,
      styleStep_pair acc (hes e List.mem_cons_self) Text.blank_space]
    exact ih (fun e' he' => hes e' (List.mem_cons_of_mem _ he')) _

namespace Keyed

theorem insert_of_lt {α : Type} (t : List (String × α)) (k : String) (v : α) (h : ∀ j ∈ keys t, j < k) :
    insert t k v = t ++ [(k, v)] := by
  induction t with
  | nil => rfl
  | cons e rest ih =>
    obtain ⟨k', v'⟩ := e
    have hlt : k' < k := h k' List.mem_cons_self
    unfold insert
    rw [if_neg (lt_asymm hlt), if_neg (ne_of_gt hlt), ih (fun j hj => h j (List.mem_cons_of_mem _ hj))]
    rfl

theorem foldl_insert_sorted {α β : Type} (g : α → β) :
    ∀ (l : List (String × α)) (acc : List (String × β)), (keys acc ++ keys l).Pairwise (· < ·) →
      l.foldl (fun out e => insert out e.1 (g e.2)) acc = acc ++ l.map fun e => (e.1, g e.2)
  | [], acc, _ => by simp
  | e :: l, acc, h => by
    have hlt : ∀ j ∈ keys acc, j < e.1 := fun j hj =>
      (List.pairwise_append.1 h).2.2 j hj e.1 (by simp [keys])
    rw [List.foldl_cons, insert_of_lt acc e.1 (g e.2) hlt, foldl_insert_sorted g l]
    · simp
    · simpa [keys, List.append_assoc] using h

theorem insert_map {α β : Type} (g : α → β) (t : List (String × α)) (k : String) (v : α) :
    insert (t.map fun e => (e.1, g e.2)) k (g v) = (insert t k v).map fun e => (e.1, g e.2) := by
  induction t with
  | nil => rfl
  | cons e rest ih =>
    obtain ⟨k', v'⟩ := e
    simp only [List.map_cons, insert]
    split_ifs <;> simp [ih]

end Keyed

/-- A map with keys in increasing order and entries that read back is read back from its
rendering. -/
theorem parseStyle_styleText_of_entries {m : List (String × String)} (hsorted : (Keyed.keys m).Pairwise (· < ·))
    (hm : ∀ e ∈ m, StyleEntry e) : parseStyle (styleText m) = m.map fun e => (e.1, .string e.2) := by
  rw [parseStyle_eq_foldl, stripped_styleText hm]
  cases m with
  | nil => rfl
  | cons e es =>
    have hes : ∀ e' ∈ es, StyleEntry e' := fun e' he' => hm e' (List.mem_cons_of_mem _ he')
    -- no pair holds a comma, so cutting at commas gives the pairs back
    have hcomma : ∀ l ∈ stylePair e :: es.map (' ' :: stylePair ·), ',' ∉ l := by
      intro l hl hc
      simp only [List.mem_cons, List.mem_map] at hl
      rcases hl with rfl | ⟨e', he', rfl⟩
      · exact ((hm e List.mem_cons_self).stylePair_chars ',' hc).1 rfl
      · -- the space that leads every later pair is no comma
        rcases List.mem_cons.1 hc with hc | hc
        · cases hc
        · exact ((hes e' he').stylePair_chars ',' hc).1 rfl
    rw [List.map_cons, intercalate_commaSpace, List.map_map, Function.comp_def,
      List.splitOn_intercalate ',' hcomma (List.cons_ne_nil _ _), List.foldl_cons, ← List.nil_append (stylePair e),
      styleStep_pair [] (hm e List.mem_cons_self) (by simp), foldl_styleStep_pairs hes]
    -- the entries come in increasing key order, so each write appends
    have hfold := Keyed.foldl_insert_sorted Value.string (e :: es) [] hsorted
    rw [List.foldl_cons, List.nil_append] at hfold
    exact hfold

/-! ## What reading gives -/

/-- The maps that reading gives: those of style maps with keys in increasing order and entries that
read back, each value a text. -/
def StyleMap (out : List (String × Value)) : Prop :=
  ∃ m : List (String × String), (Keyed.keys m).Pairwise (· < ·) ∧ (∀ e ∈ m, StyleEntry e) ∧
    out = m.map fun e => (e.1, .string e.2)

theorem splitOnP_avoids {α : Type} (p : α → Bool) : ∀ (xs : List α), ∀ t ∈ xs.splitOnP p, ∀ c ∈ t, p c = false
  | [] => by simp [List.splitOnP_nil]
  | x :: xs => by
    obtain ⟨first, rest, heq⟩ := List.exists_cons_of_ne_nil (List.splitOnP_ne_nil p xs)
    have ih := splitOnP_avoids p xs
    rw [heq] at ih
    rw [List.splitOnP_cons_eq_if_modifyHead, heq]
    split
    · -- a separator closes the piece before it
      intro t ht c hc
      rcases List.mem_cons.1 ht with rfl | ht
      · exact absurd hc List.not_mem_nil
      · exact ih t ht c hc
    · -- anything else joins the first piece
      next hx =>
      intro t ht c hc
      rw [List.modifyHead_cons] at ht
      rcases List.mem_cons.1 ht with rfl | ht
      · rcases List.mem_cons.1 hc with rfl | hc
        · simpa using hx
        · exact ih first List.mem_cons_self c hc
      · exact ih t (List.mem_cons_of_mem _ ht) c hc

theorem styleStep_styleMap {out : List (String × Value)} (h : StyleMap out) {pair : List Char}
    (hpair : ∀ c ∈ pair, c ≠ ',' ∧ c ≠ '{' ∧ c ≠ '}') : StyleMap (styleStep out pair) := by
  unfold styleStep
  split
  · exact h
  · next i hi =>
    dsimp only
    split
    · exact h
    · next hkey =>
      obtain ⟨m, hsorted, hm, rfl⟩ := h
      -- the new entry: a trimmed property before the first colon and a trimmed value after it
      have hentry : StyleEntry (Text.trim (String.ofList (pair.take i)), Text.trim (String.ofList (pair.drop (i + 1)))) := by
        refine ⟨fun h => hkey (String.isEmpty_iff.2 h), Text.unpadded_trim _, fun c hc => ?_, Text.unpadded_trim _, fun c hc => ?_⟩
        · have hc' := Text.mem_of_mem_trim hc
          rw [String.toList_ofList] at hc'
          exact ⟨ne_colon_of_mem_take hi hc', hpair c (List.mem_of_mem_take hc')⟩
        · have hc' := Text.mem_of_mem_trim hc
          rw [String.toList_ofList] at hc'
          exact hpair c (List.mem_of_mem_drop hc')
      refine ⟨Keyed.insert m _ (Text.trim (String.ofList (pair.drop (i + 1)))), Keyed.pairwise_keys_insert hsorted,
        fun e he => ?_, Keyed.insert_map Value.string m _ _⟩
      rcases Keyed.mem_insert he with rfl | he
      · exact hentry
      · exact hm e he

/-- Every map that reading gives is a style map. -/
theorem parseStyle_styleMap (s : String) : StyleMap (parseStyle s) := by
  rw [parseStyle_eq_foldl]
  -- every pair read is a run of the text without braces, cut at commas
  have hpairs : ∀ t ∈ (s.toList.filter fun c => c != '{' && c != '}').splitOn ',', ∀ c ∈ t,
      c ≠ ',' ∧ c ≠ '{' ∧ c ≠ '}' := by
    intro t ht c hc
    rw [List.splitOn_eq_splitOnP] at ht
    have hcomma := splitOnP_avoids _ _ t ht c hc
    have hbrace := List.mem_filter.1 (((splitOnP_pieces _ _).1 t ht).subset hc)
    simp only [beq_eq_false_iff_ne, ne_eq] at hcomma
    simp only [Bool.and_eq_true, bne_iff_ne, ne_eq] at hbrace
    exact ⟨hcomma, hbrace.2.1, hbrace.2.2⟩
  generalize (s.toList.filter fun c => c != '{' && c != '}').splitOn ',' = pairs at hpairs
  suffices ∀ acc, StyleMap acc → StyleMap (pairs.foldl styleStep acc) from
    this [] ⟨[], List.Pairwise.nil, fun _ h => absurd h List.not_mem_nil, rfl⟩
  induction pairs with
  | nil => exact fun _ h => h
  | cons t ts ih =>
    intro acc h
    rw [List.foldl_cons]
    exact ih (fun u hu => hpairs u (List.mem_cons_of_mem _ hu)) _
      (styleStep_styleMap h (hpairs t List.mem_cons_self))

/-! ## Reading inverts rendering -/

/-- Reading is a left inverse of rendering on style maps, and every map that reading gives is one.
A map whose keys increase, whose properties are non-empty, unpadded and free of `:`, `,`, `{`, `}`,
and whose values are unpadded and free of `,`, `{`, `}`, is read back from its rendering; and every
text reads into such a map, which reading its rendering gives again. -/
theorem parseStyle_styleText :
    (∀ m : List (String × String), (Keyed.keys m).Pairwise (· < ·) → (∀ e ∈ m, StyleEntry e) →
      parseStyle (styleText m) = m.map fun e => (e.1, .string e.2)) ∧
    ∀ s, ∃ m : List (String × String), (Keyed.keys m).Pairwise (· < ·) ∧ (∀ e ∈ m, StyleEntry e) ∧
      parseStyle s = m.map (fun e => (e.1, .string e.2)) ∧ parseStyle (styleText m) = parseStyle s := by
  refine ⟨fun m hsorted hm => parseStyle_styleText_of_entries hsorted hm, fun s => ?_⟩
  obtain ⟨m, hsorted, hm, hs⟩ := parseStyle_styleMap s
  exact ⟨m, hsorted, hm, hs, by rw [parseStyle_styleText_of_entries hsorted hm, hs]⟩

/-- `{color: red, marginTop: 4px}` reads back as its two entries. -/
theorem colorMargin_style_reads_back :
    ((Keyed.keys [("color", "red"), ("marginTop", "4px")]).Pairwise (· < ·) ∧
      ∀ e ∈ [("color", "red"), ("marginTop", "4px")], StyleEntry e) ∧
    parseStyle (styleText [("color", "red"), ("marginTop", "4px")]) =
      [("color", .string "red"), ("marginTop", .string "4px")] :=
  ⟨⟨by decide, by decide⟩, parseStyle_styleText.1 _ (by decide) (by decide)⟩

end Stencil
