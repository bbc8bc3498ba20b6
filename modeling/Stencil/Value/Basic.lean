/-
Dynamic values: what an attribute holds and what a binding context maps names to. A value is
null, a boolean, a binary64 number, a text, a list, a map enumerated in key order, or a handler
that the host calls on an event. Numbers compare as binary64 numbers do (`0 = -0`, NaN equals
nothing), and handlers compare by identity, which is their serial number.
-/
import Stencil.Data.Keyed
import Stencil.Decimal.Shortest
namespace Stencil

/-- What a handler does when the host calls it. -/
inductive Action where
  /-- asks the router to go to `url` -/
  | navigate (url : String)
  /-- reports a named event to the host -/
  | signal (label : String)
deriving Repr, DecidableEq

/-- An event callback. Two handlers are the same handler exactly when their serials agree:
copies of one handler share its serial, and every new handler gets a fresh one. -/
structure Handler where
  serial : Nat
  action : Action
deriving Repr

/-- A dynamically typed value. -/
inductive Value where
  | null
  | bool (b : Bool)
  | number (x : Float)
  | string (s : String)
  | list (items : List Value)
  /-- entries in increasing key order, without repeated keys -/
  | map (entries : List (String × Value))
  | handler (h : Handler)

instance : Inhabited Value := ⟨.null⟩

namespace Value

/-- Binary64 equality on bits: zeros of either sign are equal, NaN is equal to nothing. -/
def numberEq (x y : Float) : Bool :=
  match Decimal.classifyFloat x, Decimal.classifyFloat y with
  | .finite s a, .finite t b => (a.m == 0 && b.m == 0) || (s == t && a == b)
  | .infinite s, .infinite t => s == t
  | _, _ => false

mutual
/-- Equality of values: numbers as binary64 numbers, handlers by identity, all else by
structure. -/
def beq : Value → Value → Bool
  | .null, .null => true
  | .bool a, .bool b => a == b
  | .number x, .number y => numberEq x y
  | .string a, .string b => a == b
  | .list as, .list bs => beqList as bs
  | .map as, .map bs => beqEntries as bs
  | .handler g, .handler h => g.serial == h.serial
  | _, _ => false

/-- Equality of two lists of values, item by item. -/
def beqList : List Value → List Value → Bool
  | [], [] => true
  | a :: as, b :: bs => beq a b && beqList as bs
  | _, _ => false

/-- Equality of two maps, entry by entry in key order. -/
def beqEntries : List (String × Value) → List (String × Value) → Bool
  | [], [] => true
  | (k, a) :: as, (j, b) :: bs => k == j && beq a b && beqEntries as bs
  | _, _ => false
end

instance : BEq Value := ⟨beq⟩

/-- Whether the value is null. -/
def isNull : Value → Bool
  | .null => true
  | _ => false

/-- Truthiness: false for null, `false`, zero, NaN and the empty text; true for all else. -/
def isTruthy : Value → Bool
  | .null => false
  | .bool b => b
  | .number x =>
    match Decimal.classifyFloat x with
    | .nan => false
    | .infinite _ => true
    | .finite _ b => b.m != 0
  | .string s => !s.isEmpty
  | .list _ | .map _ | .handler _ => true

/-- The text, if the value is a text. -/
def asString? : Value → Option String
  | .string s => some s
  | _ => none

/-- The entries, if the value is a map. -/
def asMap? : Value → Option (List (String × Value))
  | .map m => some m
  | _ => none

/-- Whether the value is a handler. -/
def isHandler : Value → Bool
  | .handler _ => true
  | _ => false

end Value

end Stencil
