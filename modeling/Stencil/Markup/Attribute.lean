/-
Attributes of a tag and character references. An attribute is a name, optionally followed by
`=` and a value in double quotes, single quotes or none; a name without `=` has the empty
value. A name given twice is a fault. References are decimal (`&#65;`), hexadecimal (`&#x41;`)
or named (`&amp;`); one that names no character is kept as it is written.
-/
import Stencil.Markup.Scan
import Stencil.Markup.Entity
namespace Stencil.Markup

-- powers of numbers are the core's, whatever other instances are in scope
attribute [local instance (high)] instPowNat

/-! ## Character references -/

/-- The value of a digit in the given radix (ASCII digits and letters), if it is one. -/
def digitValue (radix : Nat) (c : Char) : Option Nat :=
  let v :=
    if '0' ≤ c && c ≤ '9' then some (c.toNat - '0'.toNat)
    else if 'a' ≤ c && c ≤ 'z' then some (c.toNat - 'a'.toNat + 10)
    else if 'A' ≤ c && c ≤ 'Z' then some (c.toNat - 'A'.toNat + 10)
    else none
  match v with
  | some d => if d < radix then some d else none
  | none => none

/-- An unsigned 32-bit number written in the given radix, with an optional `+` in front:
at least one digit, all valid, and a value below 2^32. -/
def parseWord (radix : Nat) (cs : List Char) : Option Nat :=
  let ds := match cs with
    | '+' :: r => r
    | r => r
  if ds.isEmpty then none
  else
    let v := ds.foldl (fun acc c => acc.bind fun n => (digitValue radix c).map (radix * n + ·)) (some 0)
    v.bind fun n => if n < 2 ^ (32 : Nat) then some n else none

/-- The character of a code point: below the surrogates, or between them and 0x10FFFF. -/
def charOfCode (n : Nat) : Option Char :=
  if n < 0xD800 || (0xDFFF < n && n < 0x110000) then some (Char.ofNat n) else none

/-- The text of a reference, given what stands between `&` and `;`: the character of a numeric
reference, the text of a named one, and otherwise the reference as written. -/
def resolveReference (raw : String) : String :=
  let numeric : Option Char :=
    match raw.toList with
    | '#' :: 'x' :: hex => (parseWord 16 hex).bind charOfCode
    | '#' :: 'X' :: hex => (parseWord 16 hex).bind charOfCode
    | '#' :: dec => (parseWord 10 dec).bind charOfCode
    | _ => none
  match numeric with
  | some c => c.toString
  | none =>
    match Entity.lookup raw with
    | some t => t
    | none => "&" ++ raw ++ ";"

/-- Whether a character may stand in the name of a reference inside an attribute value. -/
def isReferenceChar (c : Char) : Bool :=
  ('0' ≤ c && c ≤ '9') || ('a' ≤ c && c ≤ 'z') || ('A' ≤ c && c ≤ 'Z') || c == '#'

/-- Resolves the references of an attribute value: a `&` followed by letters, digits or `#`
and then `;`. Any other `&` stays as it is. -/
def decodeReferences (cs : List Char) : List Char :=
  match cs with
  | [] => []
  | '&' :: rest =>
    let (name, after) := rest.span isReferenceChar
    match name, after with
    | _ :: _, ';' :: more =>
      if more.length ≤ rest.length then
        (resolveReference (String.ofList name)).toList ++ decodeReferences more
      else '&' :: decodeReferences rest
    | _, _ => '&' :: decodeReferences rest
  | c :: rest => c :: decodeReferences rest
termination_by cs.length

/-! ## Attribute lists -/

/-- The number of bytes of a run of characters. -/
def byteLength (cs : List Char) : Nat := cs.foldl (fun n c => n + c.utf8Size) 0

/-- Reads attributes from `cs`, which starts `pos` bytes into the tag text of `total` bytes.
`seen` holds the names read so far with their positions. -/
def readAttributes (total : Nat) (seen : List (List Char × Nat)) (acc : List (String × String))
    (cs : List Char) (pos : Nat) : Except Fault (List (String × String)) :=
  let (blank, r0) := cs.span isMarkupBlank
  let start := pos + byteLength blank
  match r0 with
  | [] => .ok acc.reverse
  | c :: r0' =>
    let (keyRest, r1) := r0'.span (fun d => d != '=' && !isMarkupBlank d)
    let key := c :: keyRest
    let afterKey := start + byteLength key
    match seen.find? (fun e => e.1 == key) with
    | some (_, prev) => .error (.duplicated start prev)
    | none =>
      let seen := seen ++ [(key, start)]
      let name := String.ofList key
      -- the value after `=`, read from `rv` at byte `pv`, then the rest of the list
      let withValue (rv : List Char) (pv : Nat) : Except Fault (List (String × String)) :=
        let (bl, r) := rv.span isMarkupBlank
        let vs := pv + byteLength bl
        match r with
        | [] => .error (.expectedValue total)
        | q :: r' =>
          if q == '"' || q == '\'' then
            let (v, r'') := r'.span (· != q)
            match r'' with
            | _ :: more =>
              let entry := (name, String.ofList (decodeReferences v))
              if more.length < cs.length then
                readAttributes total seen (entry :: acc) more (vs + 1 + byteLength v + 1)
              else .ok (entry :: acc).reverse
            | [] => .error (.missingQuote total q)
          else
            let (v, more) := r.span (fun d => !isMarkupBlank d)
            let entry := (name, String.ofList (decodeReferences v))
            if more.length < cs.length then
              readAttributes total seen (entry :: acc) more (vs + byteLength v)
            else .ok (entry :: acc).reverse
      match r1 with
      | [] => .ok ((name, "") :: acc).reverse
      | '=' :: r2 => withValue r2 (afterKey + 1)
      | _ =>
        let (bl, r2) := r1.span isMarkupBlank
        let p2 := afterKey + byteLength bl
        match r2 with
        | [] => .ok ((name, "") :: acc).reverse
        | '=' :: r3 => withValue r3 (p2 + 1)
        | _ =>
          if r2.length < cs.length then readAttributes total seen ((name, "") :: acc) r2 p2
          else .ok ((name, "") :: acc).reverse
termination_by cs.length

/-- The name of a tag and its attributes, from the text between `<` and `>`. -/
def readTag (content : List Char) : Except Fault (String × List (String × String)) :=
  let (name, rest) := content.span (fun c => !isMarkupBlank c)
  (readAttributes (byteLength content) [] [] rest (byteLength name)).map (String.ofList name, ·)

end Stencil.Markup
