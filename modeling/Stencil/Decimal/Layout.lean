/-
Writing a selected decimal as text. A layout says which exponents are written positionally,
whether an integral value keeps a `.0`, how the exponent is marked, and how ties are broken when
the digits are selected; `Layout.write` puts the sign and the texts of the special values in
front. The library's two number texts are two values of this record.
-/
import Stencil.Decimal.Shortest
namespace Stencil.Decimal

/-- The decisions of one number format. -/
structure Layout where
  /-- leading-digit exponents from this one on are positional (`none`: no lower limit) -/
  plainFrom : Option Int
  /-- leading-digit exponents below this one are positional (`none`: no upper limit) -/
  plainBelow : Option Int
  /-- an integral positional value is written with `.0` -/
  pointZero : Bool
  /-- a non-negative exponent is written with `+` -/
  expPlus : Bool
  /-- how an exact tie between two candidates is broken -/
  tie : Tie
  /-- the text of NaN -/
  nan : String
  /-- the text of positive infinity, with `-` in front for the negative one -/
  inf : String

/-- `n` zero digits. -/
def zeros (n : Nat) : List Char := List.replicate n '0'

/-- Whether the leading-digit exponent `e` is written positionally. -/
def Layout.positional (l : Layout) (e : Int) : Bool :=
  (match l.plainFrom with | some a => decide (a ≤ e) | none => true) &&
    (match l.plainBelow with | some b => decide (e < b) | none => true)

/-- The text of a decimal without its sign: positional with the point after, inside or before
the digits, or one digit, the other digits after a point, and an exponent. -/
def Layout.place (l : Layout) (d : Dec) : List Char :=
  let ds := digitChars d.digits
  let e : Int := d.exp + ds.length - 1
  if l.positional e then
    if 0 ≤ d.exp then
      ds ++ zeros d.exp.toNat ++ (if l.pointZero then ['.', '0'] else [])
    else if 0 ≤ e then
      ds.take (e.toNat + 1) ++ '.' :: ds.drop (e.toNat + 1)
    else
      '0' :: '.' :: zeros ((-e).toNat - 1) ++ ds
  else
    let lead := ds.take 1 ++ (if ds.length > 1 then '.' :: ds.drop 1 else [])
    let mark := if e < 0 then ['e', '-'] else if l.expPlus then ['e', '+'] else ['e']
    lead ++ mark ++ digitChars e.natAbs

/-- The text of a zero: a `0` and, where integral values keep it, `.0`. -/
def Layout.zero (l : Layout) : List Char := if l.pointZero then ['0', '.', '0'] else ['0']

/-- The text of a float under this layout. -/
def Layout.write (l : Layout) (x : Float) : String :=
  match classifyFloat x with
  | .nan => l.nan
  | .infinite neg => (if neg then "-" else "") ++ l.inf
  | .finite neg b =>
    let body := if b.m == 0 then l.zero else l.place (b.shortest l.tie)
    String.ofList ((if neg then ['-'] else []) ++ body)

end Stencil.Decimal
