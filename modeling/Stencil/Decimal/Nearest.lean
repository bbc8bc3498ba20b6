/-
The binary64 value nearest to a decimal `m * 10^e`, ties to even, by exact arithmetic on
naturals: the decimal is a fraction `num / den`, the binary exponent `q` is chosen so that
`num / (den * 2^q)` has 53 bits (or `q` is the least exponent, for subnormal values), and the
quotient is rounded once, with its remainder deciding. The bits are then assembled and read
with `Float.ofBits`, so no float operation rounds on the way.
-/
namespace Stencil.Decimal

-- powers of numbers are the core's, whatever other instances are in scope
attribute [local instance (high)] instPowNat

/-- `n / d` rounded to the nearest natural, ties to the even one. -/
def roundDiv (n d : Nat) : Nat :=
  let q := n / d
  let r := n % d
  if 2 * r > d then q + 1 else if 2 * r == d && q % 2 == 1 then q + 1 else q

/-- The least binary exponent of a binary64 value (that of the subnormal ones). -/
def minExponent : Int := -1074

/-- The greatest binary exponent of a 53-bit significand that stays finite. -/
def maxExponent : Int := 971

/-- The fraction `num / (den * 2^q)`, as a numerator and a denominator. -/
def scaledBy (num den : Nat) (q : Int) : Nat × Nat :=
  if q ≥ 0 then (num, den * 2 ^ q.toNat) else (num * 2 ^ (-q).toNat, den)

/-- The bits of the value `sig * 2^q`, where `sig < 2^53`, and `sig < 2^52` only for
`q = minExponent`. -/
def assemble (sig : Nat) (q : Int) : UInt64 :=
  if sig < 2 ^ (52 : Nat) then UInt64.ofNat sig
  else UInt64.ofNat (((q + 1075).toNat <<< 52) ||| (sig - 2 ^ (52 : Nat)))

/-- The binary64 value nearest to `num / den`, for `num > 0` and `den > 0`; `none` when it is
too large to be finite. -/
def nearestFraction (num den : Nat) : Option Float :=
  let q0 : Int := (num.log2 : Int) - (den.log2 : Int) - 52
  let q1 := if (scaledBy num den q0).1 / (scaledBy num den q0).2 < 2 ^ (52 : Nat) then q0 - 1 else q0
  let q := max q1 minExponent
  let (a, b) := scaledBy num den q
  let sig := roundDiv a b
  let (sig, q) := if sig == 2 ^ (53 : Nat) then (2 ^ (52 : Nat), q + 1) else (sig, q)
  if q > maxExponent then none else some (Float.ofBits (assemble sig q))

/-- The binary64 value nearest to `m * 10^e`; `none` when it is too large to be finite.
Exponents far outside the range of binary64 are decided without computing. -/
def nearest (m : Nat) (e : Int) : Option Float :=
  if m == 0 then some 0
  else
    let size : Int := (Nat.toDigits 10 m).length
    if e + size > 310 then none
    else if e + size < -330 then some 0
    else if e ≥ 0 then nearestFraction (m * 10 ^ e.toNat) 1
    else nearestFraction m (10 ^ (-e).toNat)

end Stencil.Decimal
