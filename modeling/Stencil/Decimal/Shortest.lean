/-
Shortest decimal digits of a binary64 value. A finite value is m * 2^q; the reals that round
to it form an interval, and the selected decimal is the one with the fewest significant digits
inside it, the nearer of two when two of that length are inside, and the one the tie rule names
when both are equally near. Everything is exact arithmetic on naturals: the bits are read with
`Float.toBits`, never through a float operation.
-/
namespace Stencil.Decimal

-- powers of numbers are the core's, whatever other instances are in scope
attribute [local instance (high)] instPowNat

/-- A finite non-negative binary64 value, `m * 2^q`. -/
structure Binary where
  m : Nat
  q : Int
  /-- the gap to the value below is half the gap to the value above -/
  narrowBelow : Bool
deriving Repr, DecidableEq

/-- What the bits of a binary64 stand for. -/
inductive Class where
  | nan
  | infinite (negative : Bool)
  | finite (negative : Bool) (x : Binary)
deriving Repr, DecidableEq

/-- The magnitude held by the exponent and fraction fields. -/
def Binary.ofFields (e f : Nat) : Binary :=
  if e == 0 then ⟨f, -1074, false⟩ else ⟨2 ^ (52 : Nat) + f, (e : Int) - 1075, f == 0 && e > 1⟩

/-- Sorts bits into NaN, an infinity or a finite value with its sign. -/
def classify (b : UInt64) : Class :=
  let negative := (b >>> 63) == 1
  let e := ((b >>> 52) &&& 0x7FF).toNat
  let f := (b &&& 0xFFFFFFFFFFFFF).toNat
  if e == 0x7FF then (if f == 0 then .infinite negative else .nan)
  else .finite negative (Binary.ofFields e f)

/-- Sorts a float into NaN, an infinity or a finite value with its sign. -/
def classifyFloat (x : Float) : Class := classify x.toBits

/-- A decimal `digits * 10^exp`. -/
structure Dec where
  digits : Nat
  exp : Int
deriving Repr, DecidableEq

/-- How an exact tie between two candidates of the same length is broken. -/
inductive Tie where
  /-- the candidate with the even last digit -/
  | toEven
  /-- the candidate of larger magnitude -/
  | up
deriving Repr, DecidableEq

/-- Compares `a * 10^i` with `n * 2^j`, exactly. -/
def cmpScaled (a : Nat) (i : Int) (n : Nat) (j : Int) : Ordering :=
  compare (a * 10 ^ i.toNat * 2 ^ (-j).toNat) (n * 2 ^ j.toNat * 10 ^ (-i).toNat)

/-- The specification of a correct decimal: `d` lies among the reals that round to `x`
(to nearest, ties to even), that is between the midpoints to the two neighbours of `x`,
the midpoints included exactly when `m` is even. -/
def Binary.readsBack (x : Binary) (d : Dec) : Bool :=
  let lo := if x.narrowBelow then 4 * x.m - 1 else 4 * x.m - 2
  let hi := 4 * x.m + 2
  let incl := x.m % 2 == 0
  let cl := cmpScaled d.digits d.exp lo (x.q - 2)
  let ch := cmpScaled d.digits d.exp hi (x.q - 2)
  (cl == .gt || (incl && cl == .eq)) && (ch == .lt || (incl && ch == .eq))

/-- Whether `10^k` lies above the value. -/
def Binary.below (x : Binary) (k : Int) : Bool := cmpScaled 1 k x.m x.q == .gt

/-- The least `k` with `m * 2^q < 10^k`: estimated from the binary length, then fixed by
exact comparisons near the estimate. -/
def Binary.scale (x : Binary) : Int :=
  let k0 : Int := ((Nat.log2 x.m : Int) + x.q) * 30103 / 100000
  match (List.range 7).find? (fun (i : Nat) => x.below (k0 - 2 + i)) with
  | some i => k0 - 2 + (i : Int)
  | none => k0 + 5

/-- The value divided by `10^j`, as a numerator and a denominator. -/
def Binary.over (x : Binary) (j : Int) : Nat × Nat :=
  (x.m * 2 ^ x.q.toNat * 10 ^ (-j).toNat, 2 ^ (-x.q).toNat * 10 ^ j.toNat)

/-- The candidate on the grid `10^j` that reads back, if either of the value's two neighbours
on that grid does: the nearer one, and at an exact tie the one `tie` names. -/
def Binary.onGrid (x : Binary) (tie : Tie) (j : Int) : Option Dec :=
  let (num, den) := x.over j
  let lo := num / den
  let hiOk := x.readsBack ⟨lo + 1, j⟩
  let loOk := lo ≠ 0 && x.readsBack ⟨lo, j⟩
  if loOk && hiOk then
    match compare (2 * num) ((2 * lo + 1) * den) with
    | .lt => some ⟨lo, j⟩
    | .gt => some ⟨lo + 1, j⟩
    | .eq =>
      match tie with
      | .up => some ⟨lo + 1, j⟩
      | .toEven => if lo % 2 == 0 then some ⟨lo, j⟩ else some ⟨lo + 1, j⟩
  else if loOk then some ⟨lo, j⟩
  else if hiOk then some ⟨lo + 1, j⟩
  else none

/-- The exact decimal value of `m * 2^q`. -/
def Binary.exact (x : Binary) : Dec :=
  if 0 ≤ x.q then ⟨x.m * 2 ^ x.q.toNat, 0⟩ else ⟨x.m * 5 ^ (-x.q).toNat, x.q⟩

/-- Moves trailing zero digits into the exponent. -/
def Dec.strip (d : Dec) : Dec :=
  if h : d.digits ≠ 0 ∧ d.digits % 10 = 0 then
    Dec.strip ⟨d.digits / 10, d.exp + 1⟩
  else d
termination_by d.digits
decreasing_by omega

/-- The shortest decimal that reads back as a non-zero `x`: grids `10^(k-1)`, `10^(k-2)`, ...
are tried for one to seventeen digits, where `10^k` is the first power of ten above `x`. -/
def Binary.shortest (x : Binary) (tie : Tie) : Dec :=
  let k := x.scale
  match (List.range 17).findSome? (fun (n : Nat) => x.onGrid tie (k - 1 - n)) with
  | some d => d.strip
  | none => x.exact.strip

/-- The decimal digits of a natural number, most significant first. -/
def digitChars (n : Nat) : List Char := Nat.toDigits 10 n

end Stencil.Decimal
