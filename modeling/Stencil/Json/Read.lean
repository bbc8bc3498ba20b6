/-
Reading JSON text. The grammar is strict: no leading zeros, no trailing commas, no comments,
controls inside strings refused, surrogate escapes only in pairs, at most 127 levels of
nesting, and nothing but blanks after the document. An integer literal that fits 64 bits is
read exactly; any other number literal is rounded to the nearest binary64 number, and one too
large for it is refused. Of an object's repeated names, all are kept in order.
-/
import Stencil.Json.Basic
import Stencil.Decimal.Nearest
import Stencil.Markup.Attribute
import Stencil.Value.Integer
namespace Stencil.Json

-- powers of numbers are the core's, whatever other instances are in scope
attribute [local instance (high)] instPowNat

/-- The blanks of JSON: space, tab, line feed, carriage return. -/
def isJsonBlank (c : Char) : Bool := c == ' ' || c == '\t' || c == '\n' || c == '\r'

/-- Nesting deeper than this is refused: the reader allows itself 128 levels and gives up on
reaching the last. -/
def maxNesting : Nat := 127

/-- Whether a character is an ASCII digit. -/
def isDigitChar (c : Char) : Bool := '0' ≤ c && c ≤ '9'

/-- The binary64 number nearest to `m * 10^e`, negated when `neg`; `none` when its magnitude
is too large for binary64. -/
def decimalToFloat (neg : Bool) (m : Nat) (e : Int) : Option Float :=
  (Decimal.nearest m e).map fun f => if neg then -f else f

/-- Whether an integer literal is kept as an integer: a magnitude below 2^64, or for a negative
one up to 2^63 and not zero. Any other integer literal is read as a binary64 number, so `-0`
is negative zero. -/
def keepsInteger (neg : Bool) (magnitude : Nat) : Bool :=
  if neg then 0 < magnitude && magnitude ≤ 2 ^ (63 : Nat) else magnitude < 2 ^ (64 : Nat)

/-- The value of four hexadecimal digits. -/
def hex4 (a b c d : Char) : Option Nat :=
  match Markup.digitValue 16 a, Markup.digitValue 16 b, Markup.digitValue 16 c,
    Markup.digitValue 16 d with
  | some w, some x, some y, some z => some (((w * 16 + x) * 16 + y) * 16 + z)
  | _, _, _, _ => none

/-- The body of a string after its opening quote: its characters, the last one first, and the
text after the closing quote. -/
def readStringBody (acc : List Char) : List Char → Except String (String × List Char)
  | [] => .error "EOF while parsing a string"
  | '"' :: rest => .ok (String.ofList acc.reverse, rest)
  | '\\' :: '"' :: r => readStringBody ('"' :: acc) r
  | '\\' :: '\\' :: r => readStringBody ('\\' :: acc) r
  | '\\' :: '/' :: r => readStringBody ('/' :: acc) r
  | '\\' :: 'b' :: r => readStringBody ('\x08' :: acc) r
  | '\\' :: 'f' :: r => readStringBody ('\x0c' :: acc) r
  | '\\' :: 'n' :: r => readStringBody ('\n' :: acc) r
  | '\\' :: 'r' :: r => readStringBody ('\r' :: acc) r
  | '\\' :: 't' :: r => readStringBody ('\t' :: acc) r
  | '\\' :: 'u' :: a :: b :: c :: d :: r =>
    match hex4 a b c d with
    | none => .error "invalid escape"
    | some hi =>
      if 0xD800 ≤ hi && hi < 0xDC00 then
        match r with
        | '\\' :: 'u' :: a2 :: b2 :: c2 :: d2 :: r' =>
          match hex4 a2 b2 c2 d2 with
          | some lo =>
            if 0xDC00 ≤ lo && lo < 0xE000 then
              readStringBody (Char.ofNat (0x10000 + (hi - 0xD800) * 0x400 + (lo - 0xDC00)) :: acc) r'
            else .error "lone leading surrogate in hex escape"
          | none => .error "invalid escape"
        | _ => .error "lone leading surrogate in hex escape"
      else if 0xDC00 ≤ hi && hi < 0xE000 then .error "lone trailing surrogate in hex escape"
      else readStringBody (Char.ofNat hi :: acc) r
  | '\\' :: _ => .error "invalid escape"
  | c :: rest =>
    if c.toNat < 0x20 then .error "control character found while parsing a string"
    else readStringBody (c :: acc) rest

/-- A number literal: sign, integer part, optional fraction and exponent. -/
def readNumber (cs : List Char) : Except String (Json × List Char) :=
  let (neg, r0) := match cs with
    | '-' :: r => (true, r)
    | r => (false, r)
  let (intPart, r1) := r0.span isDigitChar
  if intPart.isEmpty then .error "invalid number"
  else if intPart.length > 1 && intPart.head? == some '0' then .error "invalid number"
  else
    let (frac, r2, hasFrac, fracOk) := match r1 with
      | '.' :: r =>
        let (f, r') := r.span isDigitChar
        (f, r', true, !f.isEmpty)
      | r => ([], r, false, true)
    if !fracOk then .error "invalid number"
    else
      let (expPart, r3, hasExp, expOk) : (Int × List Char × Bool × Bool) := match r2 with
        | e :: r =>
          if e == 'e' || e == 'E' then
            let (eneg, r') := match r with
              | '-' :: r'' => (true, r'')
              | '+' :: r'' => (false, r'')
              | r'' => (false, r'')
            let (ds, r'') := r'.span isDigitChar
            let v : Int := digitsValue ds
            ((if eneg then -v else v), r'', true, !ds.isEmpty)
          else (0, r2, false, true)
        | [] => (0, [], false, true)
      if !expOk then .error "invalid number"
      else
        let mantissa := digitsValue (intPart ++ frac)
        if !hasFrac && !hasExp && keepsInteger neg mantissa then
          .ok (.int (if neg then -(mantissa : Int) else mantissa), r3)
        else
          match decimalToFloat neg mantissa (expPart - frac.length) with
          | some x => .ok (.float x, r3)
          | none => .error "number out of range"

mutual
/-- A value, after blanks; `fuel` bounds the steps and `depth` counts the enclosing arrays and
objects. -/
def readValue (fuel depth : Nat) (cs : List Char) : Except String (Json × List Char) :=
  match fuel with
  | 0 => .error "EOF while parsing a value"
  | fuel + 1 =>
    match cs.dropWhile isJsonBlank with
    | [] => .error "EOF while parsing a value"
    | 'n' :: 'u' :: 'l' :: 'l' :: rest => .ok (.null, rest)
    | 't' :: 'r' :: 'u' :: 'e' :: rest => .ok (.bool true, rest)
    | 'f' :: 'a' :: 'l' :: 's' :: 'e' :: rest => .ok (.bool false, rest)
    | '"' :: rest => (readStringBody [] rest).map fun (s, r) => (.str s, r)
    | '[' :: rest =>
      if depth + 1 > maxNesting then .error "recursion limit exceeded"
      else
        match rest.dropWhile isJsonBlank with
        | ']' :: r => .ok (.arr [], r)
        | r => (readItems fuel (depth + 1) [] r).map fun (items, r') => (.arr items, r')
    | '{' :: rest =>
      if depth + 1 > maxNesting then .error "recursion limit exceeded"
      else
        match rest.dropWhile isJsonBlank with
        | '}' :: r => .ok (.obj [], r)
        | r => (readFields fuel (depth + 1) [] r).map fun (fields, r') => (.obj fields, r')
    | c :: rest =>
      if c == '-' || isDigitChar c then readNumber (c :: rest) else .error "expected value"

/-- Array items after `[`, the last one read first in `acc`. -/
def readItems (fuel depth : Nat) (acc : List Json) (cs : List Char) :
    Except String (List Json × List Char) :=
  match fuel with
  | 0 => .error "EOF while parsing a list"
  | fuel + 1 =>
    match readValue fuel depth cs with
    | .error e => .error e
    | .ok (v, r) =>
      match r.dropWhile isJsonBlank with
      | ',' :: r' => readItems fuel depth (v :: acc) r'
      | ']' :: r' => .ok ((v :: acc).reverse, r')
      | [] => .error "EOF while parsing a list"
      | _ => .error "expected `,` or `]`"

/-- Object fields after `{`, the last one read first in `acc`. -/
def readFields (fuel depth : Nat) (acc : List (String × Json)) (cs : List Char) :
    Except String (List (String × Json) × List Char) :=
  match fuel with
  | 0 => .error "EOF while parsing an object"
  | fuel + 1 =>
    match cs.dropWhile isJsonBlank with
    | '"' :: rest =>
      match readStringBody [] rest with
      | .error e => .error e
      | .ok (k, r) =>
        match r.dropWhile isJsonBlank with
        | ':' :: r' =>
          match readValue fuel depth r' with
          | .error e => .error e
          | .ok (v, r'') =>
            match r''.dropWhile isJsonBlank with
            | ',' :: more => readFields fuel depth ((k, v) :: acc) more
            | '}' :: more => .ok (((k, v) :: acc).reverse, more)
            | [] => .error "EOF while parsing an object"
            | _ => .error "expected `,` or `\x7d`"
        | [] => .error "EOF while parsing an object"
        | _ => .error "expected `:`"
    | [] => .error "EOF while parsing an object"
    | _ => .error "key must be a string"
end

/-- The document a text holds, or why it holds none. -/
def parse (s : String) : Except String Json :=
  let cs := s.toList
  match readValue (cs.length + 1) 0 cs with
  | .error e => .error e
  | .ok (v, rest) =>
    if (rest.dropWhile isJsonBlank).isEmpty then .ok v else .error "trailing characters"

/-- The field of an object, the last one of that name. -/
def field? (j : Json) (name : String) : Option Json :=
  match j with
  | .obj fields => (fields.reverse.find? (·.1 == name)).map (·.2)
  | _ => none

end Stencil.Json
