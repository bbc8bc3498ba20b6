/-
Integer readings of values, as comparisons use them. Text is read by its leading integer:
blanks, an optional sign, then at least one ASCII digit, anything after ignored, and a value
that does not fit a signed 64-bit word is no integer. A number is cut towards zero and held to
the word's range.
-/
import Stencil.Value.Text
import Stencil.Text.Blank
namespace Stencil

-- powers of numbers are the core's, whatever other instances are in scope
attribute [local instance (high)] instPowNat

open Decimal

/-- The largest signed 64-bit word. -/
def wordMax : Int := 2 ^ (63 : Nat) - 1

/-- The smallest signed 64-bit word. -/
def wordMin : Int := -2 ^ (63 : Nat)

/-- The value of a run of decimal digits. -/
def digitsValue (ds : List Char) : Nat :=
  ds.foldl (fun n c => 10 * n + (c.toNat - '0'.toNat)) 0

/-- A sign in front, and the rest. -/
def splitSign : List Char → Bool × List Char
  | '-' :: r => (true, r)
  | '+' :: r => (false, r)
  | r => (false, r)

/-- The leading integer of a text: blanks, an optional sign, one or more ASCII digits. No
digits, or a magnitude beyond `wordMax`, gives `none`. -/
def parseInt (s : String) : Option Int :=
  let (neg, rest) := splitSign (Text.dropBlanks s.toList)
  let ds := rest.takeWhile Char.isDigit
  if ds.isEmpty then none
  else
    let n : Int := digitsValue ds
    if n > wordMax then none else some (if neg then -n else n)

/-- Holds an integer to the range of a signed 64-bit word. -/
def clampWord (n : Int) : Int := max wordMin (min wordMax n)

/-- A finite number cut towards zero and held to the word range; `none` for NaN and the
infinities. -/
def truncWord (x : Float) : Option Int :=
  match classifyFloat x with
  | .finite neg b =>
    let n : Int := b.integerPart
    some (clampWord (if neg then -n else n))
  | _ => none

/-- The integer reading of a value: numbers cut towards zero, texts and lists by the leading
integer of their text, all else none. -/
def Value.toInt : Value → Option Int
  | .number x => truncWord x
  | .string s => parseInt s
  | .list items => parseInt (",".intercalate (Value.displayItems items))
  | _ => none

end Stencil
