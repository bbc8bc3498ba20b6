/-
Character references in attribute values, decoded in one pass. An attribute value is read from
the left as pieces (`ValueReading`): a reference `&w;`, whose name `w` is a non-empty run of ASCII
letters, digits and `#`, or a single character, read alone only where no reference starts. As `;`
is not a name character, the name of a reference is the longest run of name characters after its
`&` (`span_name_semicolon`). Every text has exactly one reading, and decoding it gives the texts of
its pieces one after another: a reference becomes what `resolveReference` gives for its name, and
every other character, every other `&` among them, is kept (`decodeReferences_one_pass`). What a
reference resolves to is never read again, so `&amp;lt;` decodes to `&lt;`.
-/
import Stencil.Markup.Attribute
import Mathlib.Data.List.TakeDrop
import Mathlib.Data.List.TakeWhile

namespace Stencil.Markup

/-! ## Readings of a value -/

/-- A piece of an attribute value: a reference, by its name, or one character. -/
inductive ValuePiece where
  | reference (name : List Char)
  | char (c : Char)
  deriving DecidableEq, Repr

/-- The text a piece decodes to. -/
def ValuePiece.decoded : ValuePiece → List Char
  | .reference name => (resolveReference (String.ofList name)).toList
  | .char c => [c]

/-- The name of a reference: a non-empty run of ASCII letters, digits and `#`. -/
def IsReferenceName (name : List Char) : Prop :=
  name ≠ [] ∧ ∀ c ∈ name, isReferenceChar c = true

/-- The text starts with a reference: `&`, a name, and `;`. -/
def StartsReference (s : List Char) : Prop :=
  ∃ name rest, IsReferenceName name ∧ s = '&' :: (name ++ ';' :: rest)

/-- `ValueReading s ps`: read from the left, `s` is the pieces `ps`. A reference is read wherever
one starts, and a character alone only where none does. -/
inductive ValueReading : List Char → List ValuePiece → Prop
  | nil : ValueReading [] []
  | reference {name rest ps} : IsReferenceName name → ValueReading rest ps →
      ValueReading ('&' :: (name ++ ';' :: rest)) (.reference name :: ps)
  | char {c rest ps} : ¬StartsReference (c :: rest) → ValueReading rest ps →
      ValueReading (c :: rest) (.char c :: ps)

theorem span_name_semicolon {name : List Char} (hname : ∀ c ∈ name, isReferenceChar c = true)
    (rest : List Char) : (name ++ ';' :: rest).span isReferenceChar = (name, ';' :: rest) := by
  have hsemi : isReferenceChar ';' = false := by decide
  rw [List.span_eq_takeWhile_dropWhile, List.takeWhile_append_of_pos hname,
    List.dropWhile_append_of_pos hname]
  simp [hsemi]

/-- A reference starts at `&` exactly when the longest run of name characters after it is
non-empty and followed by `;`. -/
theorem startsReference_amp_iff (rest : List Char) :
    StartsReference ('&' :: rest) ↔ rest.takeWhile isReferenceChar ≠ [] ∧
      (rest.dropWhile isReferenceChar).head? = some ';' := by
  constructor
  · rintro ⟨name, more, ⟨hne, hchars⟩, heq⟩
    have hspan := span_name_semicolon hchars more
    rw [← (List.cons.inj heq).2, List.span_eq_takeWhile_dropWhile, Prod.mk.injEq] at hspan
    rw [hspan.1, hspan.2]
    exact ⟨hne, rfl⟩
  · rintro ⟨hne, hsemi⟩
    obtain ⟨more, hmore⟩ : ∃ more, rest.dropWhile isReferenceChar = ';' :: more := by
      cases hdrop : rest.dropWhile isReferenceChar with
      | nil => rw [hdrop] at hsemi; cases hsemi
      | cons d more =>
        rw [hdrop, List.head?_cons, Option.some_inj] at hsemi
        exact ⟨more, hsemi ▸ rfl⟩
    have hchars : ∀ c ∈ rest.takeWhile isReferenceChar, isReferenceChar c = true :=
      fun c hc => List.mem_takeWhile_imp hc
    refine ⟨rest.takeWhile isReferenceChar, more, ⟨hne, hchars⟩, ?_⟩
    rw [← hmore, List.takeWhile_append_dropWhile]

theorem name_semicolon_inj {name name' rest rest' : List Char} (hname : IsReferenceName name)
    (hname' : IsReferenceName name') (h : name ++ ';' :: rest = name' ++ ';' :: rest') :
    name = name' ∧ rest = rest' := by
  have hspan := congrArg (List.span isReferenceChar) h
  rw [span_name_semicolon hname.2, span_name_semicolon hname'.2] at hspan
  simpa using hspan

/-- Every text has a reading: a reference where one starts, and otherwise its first character. -/
theorem exists_valueReading : ∀ s : List Char, ∃ ps, ValueReading s ps
  | [] => ⟨[], .nil⟩
  | c :: r => by
    by_cases hstart : StartsReference (c :: r)
    · obtain ⟨name, rest, hname, heq⟩ := hstart
      obtain ⟨rfl, rfl⟩ := List.cons.inj heq
      obtain ⟨ps, hps⟩ := exists_valueReading rest
      exact ⟨_, .reference hname hps⟩
    · obtain ⟨ps, hps⟩ := exists_valueReading r
      exact ⟨_, .char hstart hps⟩
termination_by s => s.length

/-- A text has one reading only. -/
theorem ValueReading.unique {s : List Char} {ps qs : List ValuePiece} (hp : ValueReading s ps)
    (hq : ValueReading s qs) : ps = qs := by
  induction hp generalizing qs with
  | nil => cases hq; rfl
  | @reference name rest ps hname _ ih =>
    -- the text is not a constructor pattern, so `hq` is taken apart through an equation
    generalize hs : '&' :: (name ++ ';' :: rest) = s at hq
    cases hq with
    | nil => cases hs
    | reference hname' hrest' =>
      obtain ⟨rfl, rfl⟩ := name_semicolon_inj hname hname' (List.cons.inj hs).2
      rw [ih hrest']
    | char hstart _ => exact absurd ⟨name, rest, hname, hs.symm⟩ hstart
  | char hstart _ ih =>
    cases hq with
    | reference hname' _ => exact absurd ⟨_, _, hname', rfl⟩ hstart
    | char _ hrest' => rw [ih hrest']

/-! ## Decoding, piece by piece -/

theorem decodeReferences_reference {name : List Char} (hname : IsReferenceName name)
    (rest : List Char) : decodeReferences ('&' :: (name ++ ';' :: rest)) =
      (resolveReference (String.ofList name)).toList ++ decodeReferences rest := by
  obtain ⟨hne, hchars⟩ := hname
  obtain ⟨c, cs, rfl⟩ := List.exists_cons_of_ne_nil hne
  rw [decodeReferences.eq_2, span_name_semicolon hchars]
  simp only [List.length_cons, List.length_append]
  rw [if_pos (by omega)]

theorem decodeReferences_amp {rest : List Char} (h : ¬StartsReference ('&' :: rest)) :
    decodeReferences ('&' :: rest) = '&' :: decodeReferences rest := by
  rw [decodeReferences.eq_2]
  split
  next name after hspan =>
    rw [List.span_eq_takeWhile_dropWhile, Prod.mk.injEq] at hspan
    split
    · next c cs more =>
      -- the test found a name and `;`, so a reference starts here after all
      have hname : rest.takeWhile isReferenceChar ≠ [] := by
        rw [hspan.1]
        exact List.cons_ne_nil c cs
      have hsemi : (rest.dropWhile isReferenceChar).head? = some ';' := by
        rw [hspan.2]
        rfl
      exact absurd ((startsReference_amp_iff rest).2 ⟨hname, hsemi⟩) h
    · rfl

theorem decodeReferences_char {c : Char} {rest : List Char} (h : ¬StartsReference (c :: rest)) :
    decodeReferences (c :: rest) = c :: decodeReferences rest := by
  by_cases hc : c = '&'
  · subst hc
    exact decodeReferences_amp h
  · exact decodeReferences.eq_3 c rest hc

/-- Decoding a text gives the texts of the pieces of its reading, one after another. -/
theorem ValueReading.decodeReferences_eq {s : List Char} {ps : List ValuePiece}
    (h : ValueReading s ps) : decodeReferences s = ps.flatMap ValuePiece.decoded := by
  induction h with
  | nil => rw [decodeReferences.eq_1, List.flatMap_nil]
  | reference hname _ ih =>
    rw [decodeReferences_reference hname, ih, List.flatMap_cons, ValuePiece.decoded]
  | char hstart _ ih =>
    rw [decodeReferences_char hstart, ih, List.flatMap_cons, ValuePiece.decoded,
      List.singleton_append]

/-- Decoding is one pass over the reading of the text: every text has exactly one reading, and
decoding gives the texts of its pieces one after another. -/
theorem decodeReferences_one_pass (s : List Char) :
    (∃! ps, ValueReading s ps) ∧
      ∀ ps, ValueReading s ps → decodeReferences s = ps.flatMap ValuePiece.decoded := by
  obtain ⟨ps, hps⟩ := exists_valueReading s
  exact ⟨⟨ps, hps, fun qs hqs => hqs.unique hps⟩, fun _ h => h.decodeReferences_eq⟩

/-- What a reference resolves to is not read again: `&amp;lt;` is `&` and then `lt;`. -/
example : decodeReferences "&amp;lt;".toList = "&lt;".toList := by
  have hamp : IsReferenceName ['a', 'm', 'p'] :=
    ⟨List.cons_ne_nil _ _, List.all_eq_true.1 (by decide)⟩
  rw [show "&amp;lt;".toList = '&' :: (['a', 'm', 'p'] ++ ';' :: ['l', 't', ';']) by rfl,
    decodeReferences_reference hamp, decodeReferences.eq_3 'l' _ (by decide),
    decodeReferences.eq_3 't' _ (by decide), decodeReferences.eq_3 ';' _ (by decide),
    decodeReferences.eq_1]
  decide

end Stencil.Markup
