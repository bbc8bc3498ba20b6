/-
Leading integers. After its leading blanks, a text that starts with an integer is an optional `+`
or `-`, a run of ASCII digits that no digit follows, and anything else (`LeadingInteger`). `parseInt`
gives that integer exactly when the digits' value is at most `wordMax`: every integer from
`-wordMax` to `wordMax` written so is read, and nothing else is (`parseInt_eq_some_iff`). The
digits are read as a magnitude before the sign is applied, so `wordMin`, whose magnitude is one
more than `wordMax`, is not read although it is a signed 64-bit word.
-/
import Stencil.Value.Integer
import Mathlib.Data.Nat.Digits.Defs
import Mathlib.Tactic.Ring

namespace Stencil

/-! ## Decimal digits -/

/-- The value of a decimal digit. -/
def digitValue (c : Char) : Nat := c.toNat - '0'.toNat

/-- The value of a run of decimal digits written most significant first. -/
def decimalValue (ds : List Char) : Nat := Nat.ofDigits 10 (ds.reverse.map digitValue)

theorem decimalValue_cons (c : Char) (cs : List Char) :
    decimalValue (c :: cs) = digitValue c * 10 ^ cs.length + decimalValue cs := by
  simp only [decimalValue, List.reverse_cons, List.map_append, List.map_cons, List.map_nil, Nat.ofDigits_append,
    Nat.ofDigits_singleton, List.length_map, List.length_reverse]
  ring

theorem foldl_digits (a : Nat) (ds : List Char) :
    ds.foldl (fun n c => 10 * n + (c.toNat - '0'.toNat)) a = a * 10 ^ ds.length + decimalValue ds := by
  induction ds generalizing a with
  | nil => simp [decimalValue]
  | cons c cs ih =>
    rw [List.foldl_cons, ih, decimalValue_cons, List.length_cons, digitValue]
    ring

theorem digitsValue_eq_decimalValue (ds : List Char) : digitsValue ds = decimalValue ds := by
  rw [digitsValue, foldl_digits, Nat.zero_mul, Nat.zero_add]

/-! ## Signs -/

/-- What may stand before the digits of an integer: nothing, `+` or `-`. -/
def signs : List (List Char) := [[], ['+'], ['-']]

theorem splitSign_cases (cs : List Char) :
    ∃ sign ∈ signs, cs = sign ++ (splitSign cs).2 := by
  unfold splitSign
  split
  · exact ⟨['-'], by simp [signs], rfl⟩
  · exact ⟨['+'], by simp [signs], rfl⟩
  · exact ⟨[], by simp [signs], rfl⟩

theorem splitSign_sign {sign : List Char} (hsign : sign ∈ signs) {d : Char} (hd : d.isDigit = true)
    (rest : List Char) : splitSign (sign ++ d :: rest) = (decide (sign = ['-']), d :: rest) := by
  have hminus : d ≠ '-' := by rintro rfl; exact absurd hd (by decide)
  have hplus : d ≠ '+' := by rintro rfl; exact absurd hd (by decide)
  simp only [signs, List.mem_cons, List.not_mem_nil, or_false] at hsign
  rcases hsign with rfl | rfl | rfl
  · unfold splitSign
    split
    · next h => exact absurd (List.cons.inj h).1 hminus
    · next h => exact absurd (List.cons.inj h).1 hplus
    · simp
  · rfl
  · rfl

/-! ## The leading integer -/

/-- `z` is the leading integer of `s`: after the leading blanks, `s` is a sign, a non-empty run of
ASCII digits that no digit follows, and anything else, and `z` is the digits' value with the
sign applied. -/
def LeadingInteger (s : String) (z : Int) : Prop :=
  ∃ sign ds rest, Text.dropBlanks s.toList = sign ++ ds ++ rest ∧ sign ∈ signs ∧ ds ≠ [] ∧
    (∀ c ∈ ds, c.isDigit = true) ∧ (∀ c ∈ rest.head?, c.isDigit = false) ∧
    z = if sign = ['-'] then -(decimalValue ds : Int) else decimalValue ds

theorem takeWhile_digits {ds rest : List Char} (hds : ∀ c ∈ ds, c.isDigit = true)
    (hrest : ∀ c ∈ rest.head?, c.isDigit = false) : (ds ++ rest).takeWhile Char.isDigit = ds := by
  rw [List.takeWhile_append_of_pos hds]
  cases rest with
  | nil => simp
  | cons c cs => simp [hrest c rfl]

/-- After its leading blanks, every text is a sign, the run of digits at the front of what follows
it, and a rest that starts with no digit. -/
theorem dropBlanks_sign_digits (s : String) :
    ∃ sign ∈ signs, ∃ rest, Text.dropBlanks s.toList =
        sign ++ (splitSign (Text.dropBlanks s.toList)).2.takeWhile Char.isDigit ++ rest ∧
      ∀ c ∈ rest.head?, c.isDigit = false := by
  obtain ⟨sign, hsign, hcs⟩ := splitSign_cases (Text.dropBlanks s.toList)
  refine ⟨sign, hsign, (splitSign (Text.dropBlanks s.toList)).2.dropWhile Char.isDigit, ?_, fun c hc => ?_⟩
  · rw [List.append_assoc, List.takeWhile_append_dropWhile]
    exact hcs
  · have hnot := List.head?_dropWhile_not Char.isDigit (splitSign (Text.dropBlanks s.toList)).2
    rw [Option.mem_def.1 hc] at hnot
    exact hnot

/-- Read from a sign and a run of digits, `parseInt` gives the digits' value with the sign applied
when it is at most `wordMax`, and nothing otherwise. -/
theorem parseInt_of_leading {s : String} {sign ds rest : List Char}
    (hs : Text.dropBlanks s.toList = sign ++ ds ++ rest) (hsign : sign ∈ signs) (hne : ds ≠ [])
    (hds : ∀ c ∈ ds, c.isDigit = true) (hrest : ∀ c ∈ rest.head?, c.isDigit = false) :
    parseInt s = if (decimalValue ds : Int) > wordMax then none
      else some (if sign = ['-'] then -(decimalValue ds : Int) else decimalValue ds) := by
  obtain ⟨d, ds', rfl⟩ := List.exists_cons_of_ne_nil hne
  have hsplit := splitSign_sign hsign (hds d List.mem_cons_self) (ds' ++ rest)
  rw [List.append_assoc, List.cons_append] at hs
  unfold parseInt
  rw [hs, hsplit]
  dsimp only
  rw [← List.cons_append, takeWhile_digits hds hrest]
  simp only [List.isEmpty_cons, Bool.false_eq_true, if_false, digitsValue_eq_decimalValue, decide_eq_true_eq]

/-- `parseInt` gives `z` exactly when `z` is the text's leading integer and lies between `-wordMax`
and `wordMax`. -/
theorem parseInt_eq_some_iff (s : String) (z : Int) :
    parseInt s = some z ↔ LeadingInteger s z ∧ -wordMax ≤ z ∧ z ≤ wordMax := by
  constructor
  · intro h
    obtain ⟨sign, hsign, rest, hs, hrest⟩ := dropBlanks_sign_digits s
    set ds := (splitSign (Text.dropBlanks s.toList)).2.takeWhile Char.isDigit with hds_def
    have hds : ∀ c ∈ ds, c.isDigit = true := List.all_eq_true.1 List.all_takeWhile
    -- a text with no digits after its sign is read as nothing
    have hne : ds ≠ [] := by
      intro hnil
      simp [parseInt, ← hds_def, hnil] at h
    rw [parseInt_of_leading hs hsign hne hds hrest] at h
    by_cases hbig : (decimalValue ds : Int) > wordMax
    · rw [if_pos hbig] at h
      cases h
    · rw [if_neg hbig] at h
      cases h
      refine ⟨⟨sign, ds, rest, hs, hsign, hne, hds, hrest, rfl⟩, ?_⟩
      split_ifs <;> omega
  · rintro ⟨⟨sign, ds, rest, hs, hsign, hne, hds, hrest, rfl⟩, hlo, hhi⟩
    rw [parseInt_of_leading hs hsign hne hds hrest]
    -- the magnitude is at most `wordMax` whichever the sign
    have hmag : ¬ (decimalValue ds : Int) > wordMax := by
      split_ifs at hlo hhi <;> omega
    rw [if_neg hmag]

/-- Blanks before the sign are skipped and whatever follows the digits is ignored. -/
example : parseInt "  42px" = some 42 := by decide

/-- The smallest word is written with one digit run more than `wordMax` can hold. -/
example : parseInt "-9223372036854775808" = none := by decide

end Stencil
