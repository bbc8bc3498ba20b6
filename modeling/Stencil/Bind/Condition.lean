/-
Conditions of `If`. An `If` compares its `context` attribute by the first operator it carries,
in the order `is`, `isNot`, `$lt`, `$lte`, `$gt`, `$gte`, `$in`, `$notIn`, and tests truthiness
when it carries none. Order comparisons read both sides as integers and fail when either side
has no integer reading; membership takes a list as it is and a text as its comma-separated,
trimmed parts.
-/
import Stencil.Value.Integer
import Stencil.Node.Basic
namespace Stencil

/-- The test an `If` performs. -/
inductive Condition where
  | is (v : Value)
  | isNot (v : Value)
  | lt (v : Value)
  | lte (v : Value)
  | gt (v : Value)
  | gte (v : Value)
  | isIn (v : Value)
  | notIn (v : Value)
  | truthy

namespace Condition

/-- The operators by attribute name, in the order they are looked for. -/
def operators : List (String × (Value → Condition)) :=
  [("is", .is), ("isNot", .isNot), ("$lt", .lt), ("$lte", .lte), ("$gt", .gt), ("$gte", .gte),
    ("$in", .isIn), ("$notIn", .notIn)]

/-- The condition of an `If` with these attributes. -/
def ofAttributes (attrs : Attributes) : Condition :=
  (operators.findSome? fun (name, make) => (Keyed.get? attrs name).map make).getD .truthy

/-- The attribute name of the operator and its operand; `truthy` has neither. -/
def operator : Condition → String × Option Value
  | .is v => ("is", some v)
  | .isNot v => ("isNot", some v)
  | .lt v => ("$lt", some v)
  | .lte v => ("$lte", some v)
  | .gt v => ("$gt", some v)
  | .gte v => ("$gte", some v)
  | .isIn v => ("$in", some v)
  | .notIn v => ("$notIn", some v)
  | .truthy => ("truthy", none)

/-- Compares the integer readings of two values; false when either has none. -/
def compareInts (a b : Value) (op : Int → Int → Bool) : Bool :=
  match a.toInt, b.toInt with
  | some x, some y => op x y
  | _, _ => false

/-- The members of a set operand: a list's items, a text's comma-separated trimmed parts, or
the value alone. -/
def members : Value → List Value
  | .list items => items
  | .string s => (s.splitOn ",").map fun part => .string (Text.trim part)
  | v => [v]

/-- Whether the value passes the condition. -/
def holds (c : Condition) (v : Value) : Bool :=
  match c with
  | .is e => v == e
  | .isNot e => !(v == e)
  | .lt b => compareInts v b (· < ·)
  | .lte b => compareInts v b (· ≤ ·)
  | .gt b => compareInts v b (· > ·)
  | .gte b => compareInts v b (· ≥ ·)
  | .isIn s => (members s).any (v == ·)
  | .notIn s => !(members s).any (v == ·)
  | .truthy => v.isTruthy

end Condition

/-- Values of `context` that mean there is nothing to test: none, null, and the texts
`undefined` and `null`. -/
def isAbsentMarker : Option Value → Bool
  | none | some .null => true
  | some (.string s) => s == "undefined" || s == "null"
  | some _ => false

end Stencil
