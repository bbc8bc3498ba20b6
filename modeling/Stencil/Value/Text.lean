/-
The text of a value, as directives substitute it: booleans as `true`/`false`, a list as the
texts of its items joined by commas, and numbers as integers when they are integral and below
10^15 in magnitude, otherwise in shortest positional digits. Null, maps and handlers have no
text.
-/
import Stencil.Value.Basic
import Stencil.Decimal.Layout
namespace Stencil

-- powers of numbers are the core's, whatever other instances are in scope
attribute [local instance (high)] instPowNat

open Decimal

/-- Numbers in substituted text: never an exponent, shortest digits, a tie goes up,
`NaN` and `inf`. -/
def Value.numberLayout : Layout where
  plainFrom := none
  plainBelow := none
  pointZero := false
  expPlus := false
  tie := .up
  nan := "NaN"
  inf := "inf"

/-- The integer part of `m * 2^q`. -/
def Decimal.Binary.integerPart (b : Binary) : Nat :=
  if 0 ≤ b.q then b.m * 2 ^ b.q.toNat else b.m / 2 ^ (-b.q).toNat

/-- Whether `m * 2^q` is an integer. -/
def Decimal.Binary.isIntegral (b : Binary) : Bool :=
  0 ≤ b.q || b.m % 2 ^ (-b.q).toNat == 0

/-- The text of a number: integral values below 10^15 in magnitude as integers (a zero of
either sign as `0`), all others by `Value.numberLayout`. -/
def Value.numberText (x : Float) : String :=
  match classifyFloat x with
  | .finite neg b =>
    if b.isIntegral && b.below 15 then
      let n := b.integerPart
      (if neg && n != 0 then "-" else "") ++ String.ofList (digitChars n)
    else Value.numberLayout.write x
  | _ => Value.numberLayout.write x

namespace Value

mutual
/-- The text substituted for a directive, `none` for values without one. -/
def display : Value → Option String
  | .null | .map _ | .handler _ => none
  | .bool b => some (if b then "true" else "false")
  | .number x => some (numberText x)
  | .string s => some s
  | .list items => some (",".intercalate (displayItems items))

/-- The texts of list items, the empty text standing for an item without one. -/
def displayItems : List Value → List String
  | [] => []
  | v :: vs => ((display v).getD "") :: displayItems vs
end

end Value

end Stencil
