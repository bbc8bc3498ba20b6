/-
JSON documents and how they are written. Objects keep their fields in the order given. Text is
written with `"` and `\` escaped, the controls backspace, form feed, line feed, carriage return
and tab in their short forms and the other controls as `\u00xx`; everything else, non-ASCII
included, as it is. Binary64 numbers are written in their shortest digits, positionally with
`.0` for integral values between 10^-5 and 10^16, otherwise with an exponent. The compact form
has no blanks; the pretty form puts each item on a line of its own, indented by two spaces.
-/
import Stencil.Decimal.Layout
namespace Stencil

/-- A JSON document. -/
inductive Json where
  | null
  | bool (b : Bool)
  /-- a number written as an integer -/
  | int (n : Int)
  /-- a binary64 number -/
  | float (x : Float)
  | str (s : String)
  | arr (items : List Json)
  /-- fields in the order they are written -/
  | obj (fields : List (String × Json))

instance : Inhabited Json := ⟨.null⟩

namespace Json

open Decimal

/-- Binary64 numbers in JSON: shortest digits, a tie to the even digit, positional from 10^-5
up to 10^16 with `.0` on integral values, and `e+`/`e-` exponents outside. -/
def numberLayout : Layout where
  plainFrom := some (-5)
  plainBelow := some 16
  pointZero := true
  expPlus := true
  tie := .toEven
  nan := "null"
  inf := "null"

/-- Two lower-case hexadecimal digits. -/
def hex2 (n : Nat) : List Char :=
  let d := fun (k : Nat) => if k < 10 then Char.ofNat (48 + k) else Char.ofNat (87 + k)
  [d (n / 16 % 16), d (n % 16)]

/-- One character of a string as it is written. -/
def escapeChar (c : Char) : List Char :=
  if c == '"' then ['\\', '"']
  else if c == '\\' then ['\\', '\\']
  else if c == '\n' then ['\\', 'n']
  else if c == '\r' then ['\\', 'r']
  else if c == '\t' then ['\\', 't']
  else if c == '\x08' then ['\\', 'b']
  else if c == '\x0c' then ['\\', 'f']
  else if c.toNat < 0x20 then ['\\', 'u', '0', '0'] ++ hex2 c.toNat
  else [c]

/-- A string as it is written, quotes included. -/
def quote (s : String) : String := String.ofList ('"' :: (s.toList.flatMap escapeChar ++ ['"']))

/-- A number as it is written: non-finite numbers have no JSON form and are written `null`. -/
def floatText (x : Float) : String :=
  match classifyFloat x with
  | .finite .. => numberLayout.write x
  | _ => "null"

mutual
/-- The compact text of a document. -/
def compact : Json → String
  | .null => "null"
  | .bool b => if b then "true" else "false"
  | .int n => toString n
  | .float x => floatText x
  | .str s => quote s
  | .arr items => "[" ++ ",".intercalate (compactItems items) ++ "]"
  | .obj fields => "\x7b" ++ ",".intercalate (compactFields fields) ++ "\x7d"

/-- The compact texts of array items. -/
def compactItems : List Json → List String
  | [] => []
  | j :: js => compact j :: compactItems js

/-- The compact texts of object fields. -/
def compactFields : List (String × Json) → List String
  | [] => []
  | (k, j) :: fs => (quote k ++ ":" ++ compact j) :: compactFields fs
end

/-- A line break and the indentation of a nesting level. -/
def newline (level : Nat) : String := "\n" ++ String.ofList (List.replicate (2 * level) ' ')

mutual
/-- The pretty text of a document at a nesting level. -/
def pretty (level : Nat) : Json → String
  | .arr [] => "[]"
  | .arr items =>
    "[" ++ String.join ((prettyItems (level + 1) items).map (newline (level + 1) ++ ·) |>.intersperse ",") ++
      newline level ++ "]"
  | .obj [] => "\x7b\x7d"
  | .obj fields =>
    "\x7b" ++ String.join ((prettyFields (level + 1) fields).map (newline (level + 1) ++ ·) |>.intersperse ",") ++
      newline level ++ "\x7d"
  | j => compact j

/-- The pretty texts of array items. -/
def prettyItems (level : Nat) : List Json → List String
  | [] => []
  | j :: js => pretty level j :: prettyItems level js

/-- The pretty texts of object fields. -/
def prettyFields (level : Nat) : List (String × Json) → List String
  | [] => []
  | (k, j) :: fs => (quote k ++ ": " ++ pretty level j) :: prettyFields level fs
end

end Json

end Stencil
