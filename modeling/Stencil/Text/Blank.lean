/-
Blank characters: the Unicode White_Space property, which every trim and every split on blanks
in the library uses. The ASCII blanks of core are among them (`isWhitespace_isBlank`), and so
are the no-break and ideographic spaces that core does not know.
-/
namespace Stencil.Text

/-- The Unicode White_Space property: the ASCII controls tab to carriage return, the space,
next line, the no-break spaces and the typographic spaces, line and paragraph separators. -/
def isBlank (c : Char) : Bool :=
  let n := c.toNat
  (0x09 ≤ n && n ≤ 0x0D) || n == 0x20 || n == 0x85 || n == 0xA0 || n == 0x1680 ||
    (0x2000 ≤ n && n ≤ 0x200A) || n == 0x2028 || n == 0x2029 || n == 0x202F ||
    n == 0x205F || n == 0x3000

/-- Drops the blanks at the front. -/
def dropBlanks (cs : List Char) : List Char := cs.dropWhile isBlank

/-- Drops the blanks at the end. -/
def dropTrailingBlanks (cs : List Char) : List Char := (dropBlanks cs.reverse).reverse

/-- The text without its leading blanks. -/
def trimStart (s : String) : String := String.ofList (dropBlanks s.toList)

/-- The text without its trailing blanks. -/
def trimEnd (s : String) : String := String.ofList (dropTrailingBlanks s.toList)

/-- The text without blanks at either end. -/
def trim (s : String) : String := String.ofList (dropTrailingBlanks (dropBlanks s.toList))

theorem isWhitespace_isBlank (c : Char) (h : c.isWhitespace = true) : isBlank c = true := by
  simp only [Char.isWhitespace, Bool.or_eq_true, decide_eq_true_eq] at h
  rcases h with ((h | h) | h) | h <;> simp [isBlank, h]

/-- The no-break space is blank, though core does not count it; a letter is not. -/
example : isBlank '\u00A0' = true ∧ '\u00A0'.isWhitespace = false ∧ isBlank 'a' = false := by decide

theorem dropBlanks_head (cs : List Char) (c : Char) (h : (dropBlanks cs).head? = some c) :
    isBlank c = false := by
  unfold dropBlanks at h
  induction cs with
  | nil => simp at h
  | cons d ds ih =>
    by_cases hd : isBlank d = true
    · simp [hd] at h; exact ih h
    · simp [hd] at h; subst h; simpa using hd

end Stencil.Text
