/-
Scanning YAML text into tokens. The scanner walks the text once, keeping the indentation
columns of the open blocks and, per flow level, the place where a simple key (one written
without `?`) may have started. When a `:` follows such a place, a `key` token is inserted
there, with a `blockMappingStart` before it when the key opens a deeper block. A place stops
being a possible key at the end of its line or once more than 1024 bytes of UTF-8 follow its
start; when it stood where only a key can stand (block context, at the block's column), that
is an error.

Every loop consumes a character per round and is bounded by the length of the input.
-/
import Stencil.Yaml.Token
namespace Stencil.Yaml

/-- A place where a simple key may start. -/
structure KeySpot where
  possible : Bool
  /-- in block context at the block's column, where only a key can stand -/
  required : Bool
  /-- the number of tokens scanned before it: where its `key` token goes -/
  tokenNumber : Nat
  line : Nat
  /-- the UTF-8 byte offset of its start -/
  index : Nat
  column : Nat
deriving Repr, Inhabited

/-- No possible key. -/
def KeySpot.none : KeySpot := ⟨false, false, 0, 0, 0, 0⟩

/-- The state of a scan. -/
structure Scanner where
  input : Array Char
  /-- the UTF-8 byte offset of each character of the input, and of its end -/
  offsets : Array Nat
  /-- the index of the next character -/
  pos : Nat
  line : Nat
  column : Nat
  tokens : Array Token
  /-- the depth of `[`/`{` collections around the position -/
  flowLevel : Nat
  /-- the column of the innermost block, `-1` outside every block -/
  indent : Int
  /-- the columns of the enclosing blocks, innermost first -/
  indents : List Int
  /-- whether a simple key may start at the position -/
  simpleKeyAllowed : Bool
  /-- the possible key of each flow level, innermost first -/
  keys : List KeySpot
  /-- whether the end of the stream has been scanned -/
  ended : Bool

namespace Scanner

/-- The character `k` places after the position. -/
def peek (s : Scanner) (k : Nat) : Option Char := s.input[s.pos + k]?

/-- The character at the position. -/
def cur (s : Scanner) : Option Char := s.peek 0

/-- The UTF-8 byte offset of the position. -/
def offset (s : Scanner) : Nat := s.offsets.getD s.pos 0

/-- Whether the character `k` places on is `c`. -/
def sees (s : Scanner) (k : Nat) (c : Char) : Bool := s.peek k == some c

/-- A bound on the rounds of a loop over the rest of the input. -/
def fuel (s : Scanner) : Nat := s.input.size - s.pos + 1

/-- Steps over a character that is not a line break. -/
def skip (s : Scanner) : Scanner := { s with pos := s.pos + 1, column := s.column + 1 }

/-- Steps over `n` characters that are not line breaks. -/
def skipN (s : Scanner) : Nat → Scanner
  | 0 => s
  | n + 1 => (s.skipN n).skip

/-- Steps over a line break (a carriage return and line feed together). -/
def skipLine (s : Scanner) : Scanner :=
  if s.sees 0 '\r' && s.sees 1 '\n' then { s with pos := s.pos + 2, line := s.line + 1, column := 0 }
  else if (s.cur.map isBreak).getD false then
    { s with pos := s.pos + 1, line := s.line + 1, column := 0 }
  else s

/-- Reads a line break: what it stands for in a scalar (a line feed, or a line or paragraph
separator itself) and the scanner after it. -/
def readLine (s : Scanner) : String × Scanner :=
  match s.cur with
  | some c =>
    if c == '\u2028' || c == '\u2029' then (c.toString, s.skipLine)
    else if isBreak c then ("\n", s.skipLine)
    else ("", s)
  | none => ("", s)

/-- Whether the position starts a `---` or `...` line marker. -/
def atDocumentMarker (s : Scanner) : Bool :=
  s.column == 0 && blankz (s.peek 3) &&
    ((s.sees 0 '-' && s.sees 1 '-' && s.sees 2 '-') || (s.sees 0 '.' && s.sees 1 '.' && s.sees 2 '.'))

/-- Steps over the characters that satisfy `p`. -/
def skipWhile (p : Char → Bool) : Nat → Scanner → Scanner
  | 0, s => s
  | n + 1, s =>
    match s.cur with
    | some c => if p c then skipWhile p n s.skip else s
    | none => s

/-- Reads the characters that satisfy `p` onto `acc`. -/
def readWhile (p : Char → Bool) : Nat → String → Scanner → String × Scanner
  | 0, acc, s => (acc, s)
  | n + 1, acc, s =>
    match s.cur with
    | some c => if p c then readWhile p n (acc.push c) s.skip else (acc, s)
    | none => (acc, s)

/-- Steps over a comment, up to the line break. -/
def skipComment (s : Scanner) : Scanner :=
  if s.sees 0 '#' then skipWhile (fun c => !isBreak c) s.fuel s else s

/-- Adds a token at the end. -/
def push (s : Scanner) (t : Token) : Scanner := { s with tokens := s.tokens.push t }

/-! ## Possible keys and indentation -/

/-- The possible key of the innermost flow level. -/
def topKey (s : Scanner) : KeySpot := s.keys.headD KeySpot.none

/-- Replaces the possible key of the innermost flow level. -/
def setTopKey (s : Scanner) (k : KeySpot) : Scanner := { s with keys := k :: s.keys.tail }

/-- Drops the possible key of the innermost flow level, which is an error when only a key
could stand there. -/
def removeKey (s : Scanner) : Except String Scanner :=
  if s.topKey.possible && s.topKey.required then .error "could not find expected \x27:\x27"
  else .ok (s.setTopKey { s.topKey with possible := false })

/-- Notes the position as a possible key, when a key may start here. -/
def saveKey (s : Scanner) : Except String Scanner :=
  if s.simpleKeyAllowed then do
    let spot : KeySpot :=
      ⟨true, s.flowLevel == 0 && s.indent == (s.column : Int), s.tokens.size, s.line, s.offset, s.column⟩
    let s ← s.removeKey
    pure (s.setTopKey spot)
  else .ok s

/-- Drops the possible keys that a line break or more than 1024 bytes of UTF-8 separate from
the position. -/
def staleKeys (s : Scanner) : Except String Scanner := do
  let keys ← s.keys.mapM fun k =>
    if k.possible && (k.line < s.line || k.index + 1024 < s.offset) then
      if k.required then .error "could not find expected \x27:\x27" else .ok { k with possible := false }
    else .ok k
  pure { s with keys := keys }

/-- Enters a flow collection. -/
def enterFlow (s : Scanner) : Scanner :=
  { s with keys := KeySpot.none :: s.keys, flowLevel := s.flowLevel + 1 }

/-- Leaves a flow collection. -/
def leaveFlow (s : Scanner) : Scanner :=
  if s.flowLevel > 0 then { s with flowLevel := s.flowLevel - 1, keys := s.keys.tail } else s

/-- In block context, opens a block at `column` when it is deeper than the current one, with
the token `t` at the end or, given a token number, inserted there. -/
def rollIndent (s : Scanner) (column : Nat) (at? : Option Nat) (t : Token) : Scanner :=
  if s.flowLevel == 0 && s.indent < (column : Int) then
    let s := { s with indents := s.indent :: s.indents, indent := column }
    match at? with
    | none => s.push t
    | some n => { s with tokens := s.tokens.insertIdxIfInBounds n t }
  else s

/-- In block context, closes the blocks deeper than `column`, a `blockEnd` for each. -/
def unrollIndent (column : Int) : Nat → Scanner → Scanner
  | 0, s => s
  | n + 1, s =>
    if s.flowLevel == 0 && s.indent > column then
      match s.indents with
      | i :: rest => unrollIndent column n ({ s with indent := i, indents := rest }.push .blockEnd)
      | [] => s
    else s

/-- Closes the blocks deeper than `column`. -/
def unroll (s : Scanner) (column : Int) : Scanner := unrollIndent column (s.indents.length + 1) s

/-! ## Directives -/

/-- A version number: one to nine digits. -/
def versionNumber (s : Scanner) : Except String (Nat × Scanner) :=
  let (ds, s) := readWhile Char.isDigit s.fuel "" s
  if ds.isEmpty then .error "did not find expected version number"
  else if ds.length > 9 then .error "found extremely long version number"
  else .ok (ds.foldl (fun n c => 10 * n + (c.toNat - '0'.toNat)) 0, s)

/-- The value of a `%YAML` directive: `major.minor`. -/
def versionValue (s : Scanner) : Except String (Token × Scanner) := do
  let (major, s) ← versionNumber (skipWhile isBlank s.fuel s)
  unless s.sees 0 '.' do throw "did not find expected digit or \x27.\x27 character"
  let (minor, s) ← versionNumber s.skip
  pure (.version major minor, s)

/-- A tag handle: `!`, `!!` or `!name!`; outside a directive also `!name`, which the caller
reads on as the start of a tag. -/
def tagHandle (directive : Bool) (s : Scanner) : Except String (String × Scanner) := do
  unless s.sees 0 '!' do throw "did not find expected \x27!\x27"
  let (h, s) := readWhile isWordChar s.fuel "!" s.skip
  if s.sees 0 '!' then pure (h.push '!', s.skip)
  else if directive && h != "!" then throw "did not find expected \x27!\x27"
  else pure (h, s)

/-- The length of a UTF-8 sequence from its leading byte, zero for a byte that cannot lead. -/
def utf8Width (b : Nat) : Nat :=
  if b < 0x80 then 1 else if b / 32 == 6 then 2 else if b / 16 == 14 then 3
  else if b / 8 == 30 then 4 else 0

/-- A `%XX` escape of a tag, with the trailing escapes of a UTF-8 sequence (`left` of them
still expected), its bytes appended to `acc` as characters. -/
def uriEscapes : Nat → Nat → String → Scanner → Except String (String × Scanner)
  | 0, _, acc, s => .ok (acc, s)
  | fuel + 1, left, acc, s =>
    match s.cur, (s.peek 1).bind hexValue, (s.peek 2).bind hexValue with
    | some '%', some h, some l =>
      let b := 16 * h + l
      let s := s.skip.skip.skip
      if left == 0 then
        let w := utf8Width b
        if w == 0 then .error "found an incorrect leading UTF-8 octet"
        else if w == 1 then .ok (acc.push (Char.ofNat b), s)
        else uriEscapes fuel (w - 1) (acc.push (Char.ofNat b)) s
      else if b / 64 != 2 then .error "found an incorrect trailing UTF-8 octet"
      else if left == 1 then .ok (acc.push (Char.ofNat b), s)
      else uriEscapes fuel (left - 1) (acc.push (Char.ofNat b)) s
    | _, _, _ => .error "did not find URI escaped octet"

/-- The characters of a tag after its handle onto `acc`, counting them in `n`. -/
def tagUriChars (verbatim : Bool) : Nat → Nat → String → Scanner → Except String (Nat × String × Scanner)
  | 0, n, acc, s => .ok (n, acc, s)
  | fuel + 1, n, acc, s =>
    match s.cur with
    | some c =>
      if isUriChar verbatim c then
        if c == '%' then do
          let (acc, s) ← uriEscapes s.fuel 0 acc s
          tagUriChars verbatim fuel (n + 1) acc s
        else tagUriChars verbatim fuel (n + 1) (acc.push c) s.skip
      else .ok (n, acc, s)
    | none => .ok (n, acc, s)

/-- The text of a tag after its handle, continuing `head` (a handle that turned out to be the
start of the tag) without its `!`; it may not be empty. -/
def tagUri (verbatim : Bool) (head : String) (s : Scanner) : Except String (String × Scanner) := do
  let (n, acc, s) ← tagUriChars verbatim s.fuel head.length (String.ofList (head.toList.drop 1)) s
  if n == 0 then throw "did not find expected tag URI"
  pure (acc, s)

/-- The value of a `%TAG` directive: a handle and a prefix. -/
def tagDirectiveValue (s : Scanner) : Except String (Token × Scanner) := do
  let (handle, s) ← tagHandle true (skipWhile isBlank s.fuel s)
  unless (s.cur.map isBlank).getD false do throw "did not find expected whitespace"
  let (pfx, s) ← tagUri true "" (skipWhile isBlank s.fuel s)
  unless blankz s.cur do throw "did not find expected whitespace or line break"
  pure (.tagDirective handle pfx, s)

/-- A directive line after its `%`, with its comment and line break. -/
def scanDirective (s : Scanner) : Except String (Token × Scanner) := do
  let (name, s) := readWhile isWordChar s.fuel "" s.skip
  if name.isEmpty then throw "could not find expected directive name"
  unless blankz s.cur do throw "found unexpected non-alphabetical character"
  let (t, s) ←
    if name == "YAML" then versionValue s
    else if name == "TAG" then tagDirectiveValue s
    else throw "found unknown directive name"
  let s := skipComment (skipWhile isBlank s.fuel s)
  unless breakz s.cur do throw "did not find expected comment or line break"
  pure (t, s.skipLine)

/-! ## Anchors and tags -/

/-- An anchor `&name` or alias `*name`. -/
def scanAnchor (isAlias : Bool) (s : Scanner) : Except String (Token × Scanner) :=
  let (name, s) := readWhile isWordChar s.fuel "" s.skip
  if name.isEmpty || !(blankz s.cur || (s.cur.map endsAnchor).getD false) then
    .error "did not find expected alphabetic or numeric character"
  else .ok (if isAlias then .alias name else .anchor name, s)

/-- A tag: `!<uri>`, `!handle!suffix`, `!suffix`, or `!` alone. -/
def scanTag (s : Scanner) : Except String (Token × Scanner) := do
  let (handle, suffix, s) ←
    if s.sees 1 '<' then do
      let (suffix, s) ← tagUri true "" s.skip.skip
      unless s.sees 0 '>' do throw "did not find the expected \x27>\x27"
      pure ("", suffix, s.skip)
    else do
      let (h, s) ← tagHandle false s
      if h.length > 1 && h.back == '!' then
        let (suffix, s) ← tagUri false "" s
        pure (h, suffix, s)
      else
        let (suffix, s) ← tagUri false h s
        if suffix.isEmpty then pure ("", "!", s) else pure ("!", suffix, s)
  unless blankz s.cur || (s.flowLevel > 0 && s.sees 0 ',') do
    throw "did not find expected whitespace or line break"
  pure (.tag handle suffix, s)

/-! ## Quoted scalars -/

/-- The character of a one-letter escape of a double-quoted scalar, or the number of hex
digits of a code escape. -/
def escapeOf (c : Char) : Option (Sum Char Nat) :=
  match c with
  | '0' => some (.inl (Char.ofNat 0))
  | 'a' => some (.inl '\x07')
  | 'b' => some (.inl '\x08')
  | 't' => some (.inl '\t')
  | '\t' => some (.inl '\t')
  | 'n' => some (.inl '\n')
  | 'v' => some (.inl '\x0b')
  | 'f' => some (.inl '\x0c')
  | 'r' => some (.inl '\r')
  | 'e' => some (.inl '\x1b')
  | ' ' => some (.inl ' ')
  | '"' => some (.inl '"')
  | '/' => some (.inl '/')
  | '\'' => some (.inl '\'')
  | '\\' => some (.inl '\\')
  | 'N' => some (.inl '\x85')
  | '_' => some (.inl '\xa0')
  | 'L' => some (.inl '\u2028')
  | 'P' => some (.inl '\u2029')
  | 'x' => some (.inr 2)
  | 'u' => some (.inr 4)
  | 'U' => some (.inr 8)
  | _ => none

/-- The value of `n` hex digits from `k` places after the position. -/
def hexDigits (s : Scanner) (k : Nat) : Nat → Nat → Option Nat
  | 0, v => some v
  | n + 1, v => ((s.peek k).bind hexValue).bind fun d => hexDigits s (k + 1) n (16 * v + d)

/-- The non-blank characters of a quoted scalar onto `acc`, up to a blank, a line break or
the closing quote; `true` with it when an escaped line break ended them. -/
def quotedWord (single : Bool) : Nat → String → Scanner → Except String (String × Bool × Scanner)
  | 0, acc, s => .ok (acc, false, s)
  | fuel + 1, acc, s =>
    match s.cur with
    | none => .ok (acc, false, s)
    | some c =>
      if isBlank c || isBreak c then .ok (acc, false, s)
      else if single && c == '\'' && s.sees 1 '\'' then quotedWord single fuel (acc.push '\'') s.skip.skip
      else if c == (if single then '\'' else '"') then .ok (acc, false, s)
      else if !single && c == '\\' && ((s.peek 1).map isBreak).getD false then
        .ok (acc, true, s.skip.skipLine)
      else if !single && c == '\\' then
        match (s.peek 1).bind escapeOf with
        | some (.inl e) => quotedWord single fuel (acc.push e) s.skip.skip
        | some (.inr n) =>
          match hexDigits s 2 n 0 with
          | none => .error "did not find expected hexdecimal number"
          | some v =>
            if (0xD800 ≤ v && v ≤ 0xDFFF) || v > 0x10FFFF then
              .error "found invalid Unicode character escape code"
            else quotedWord single fuel (acc.push (Char.ofNat v)) (s.skipN (n + 2))
        | none => .error "found unknown escape character"
      else quotedWord single fuel (acc.push c) s.skip

/-- The blanks and line breaks between the words of a flow scalar: the blanks kept when no
line break comes (`white`), the first line break and the later ones. -/
structure Gap where
  breaks : Bool
  white : String
  leading : String
  trailing : String

/-- Reads blanks and line breaks onto a gap. With `tabGuard` set to a column, a tab before
that column after a line break is an error (plain scalars); the gap starts broken when an
escaped line break came first. -/
def gapChars (tabGuard : Option Nat) : Nat → Gap → Scanner → Except String (Gap × Scanner)
  | 0, g, s => .ok (g, s)
  | fuel + 1, g, s =>
    match s.cur with
    | some c =>
      if isBlank c then
        if g.breaks && c == '\t' && (tabGuard.map (fun i => decide (s.column < i))).getD false then
          .error "found a tab character that violates indentation"
        else if g.breaks then gapChars tabGuard fuel g s.skip
        else gapChars tabGuard fuel { g with white := g.white.push c } s.skip
      else if isBreak c then
        let (b, s) := s.readLine
        if g.breaks then gapChars tabGuard fuel { g with trailing := g.trailing ++ b } s
        else gapChars tabGuard fuel { g with breaks := true, white := "", leading := b } s
      else .ok (g, s)
    | none => .ok (g, s)

/-- What a gap adds between two words: its blanks when it holds no line break; else a
single line feed folds to a space, and further line breaks stay. -/
def Gap.joined (g : Gap) : String :=
  if !g.breaks then g.white
  else if g.leading == "\n" then (if g.trailing.isEmpty then " " else g.trailing)
  else g.leading ++ g.trailing

/-- The rest of a quoted scalar after its opening quote: its text and the scanner after the
closing quote. -/
def quotedRest (single : Bool) : Nat → String → Scanner → Except String (String × Scanner)
  | 0, _, _ => .error "found unexpected end of stream"
  | fuel + 1, acc, s =>
    if s.atDocumentMarker then .error "found unexpected document indicator"
    else if s.cur.isNone then .error "found unexpected end of stream"
    else do
      let (acc, escapedBreak, s) ← quotedWord single s.fuel acc s
      if s.sees 0 (if single then '\'' else '"') then pure (acc, s.skip)
      else
        let (g, s) ← gapChars none s.fuel ⟨escapedBreak, "", "", ""⟩ s
        quotedRest single fuel (acc ++ g.joined) s

/-! ## Plain scalars -/

/-- The non-blank characters of a plain scalar, each run after the first joined by the gap
before it. -/
def plainWord (flow : Bool) : Nat → Gap → String → Scanner → Except String (Gap × String × Scanner)
  | 0, g, acc, s => .ok (g, acc, s)
  | fuel + 1, g, acc, s =>
    match s.cur with
    | none => .ok (g, acc, s)
    | some c =>
      if isBlank c || isBreak c then .ok (g, acc, s)
      else if flow && c == ':' && ((s.peek 1).map isFlowIndicator).getD false then
        .error "found unexpected \x27:\x27"
      else if flow && c == ':' && s.sees 1 '?' then .error "found unexpected \x27:\x27"
      else if (c == ':' && blankz (s.peek 1)) || (flow && isFlowIndicator c) then .ok (g, acc, s)
      else
        let acc := if g.breaks || !g.white.isEmpty then acc ++ g.joined else acc
        plainWord flow fuel ⟨false, "", "", ""⟩ (acc.push c) s.skip

/-- The rest of a plain scalar: its text, whether a line break was crossed at its end, and the
scanner after its last non-blank character's gap. -/
def plainRest (flow : Bool) (indent : Int) : Nat → Gap → String → Scanner →
    Except String (Gap × String × Scanner)
  | 0, g, acc, s => .ok (g, acc, s)
  | fuel + 1, g, acc, s =>
    if s.atDocumentMarker || s.sees 0 '#' then .ok (g, acc, s)
    else do
      let (g, acc, s) ← plainWord flow s.fuel g acc s
      if !((s.cur.map fun c => isBlank c || isBreak c).getD false) then pure (g, acc, s)
      else
        let (g, s) ← gapChars (some indent.toNat) s.fuel g s
        if !flow && (s.column : Int) < indent then pure (g, acc, s)
        else plainRest flow indent fuel g acc s

/-! ## Block scalars -/

/-- The indentation and empty lines before a line of a block scalar. With `indent` zero (not
yet known) every leading space is taken and the deepest column seen is kept. -/
def blockBreaks (indent : Nat) : Nat → Nat → String → Scanner → Except String (Nat × String × Scanner)
  | 0, deepest, breaks, s => .ok (deepest, breaks, s)
  | fuel + 1, deepest, breaks, s =>
    let s := skipSpaces indent s.fuel s
    let deepest := max deepest s.column
    if (indent == 0 || s.column < indent) && s.sees 0 '\t' then
      .error "found a tab character where an indentation space is expected"
    else if (s.cur.map isBreak).getD false then
      let (b, s) := s.readLine
      blockBreaks indent fuel deepest (breaks ++ b) s
    else .ok (deepest, breaks, s)
where
  /-- Spaces up to the indentation column, or all of them while it is not known. -/
  skipSpaces (indent : Nat) : Nat → Scanner → Scanner
    | 0, s => s
    | n + 1, s =>
      if (indent == 0 || s.column < indent) && s.sees 0 ' ' then skipSpaces indent n s.skip else s

/-- The header of a block scalar after `|` or `>`: chomping (`-1` strip, `0` clip, `1` keep)
and an explicit indentation, in either order. -/
def blockHeader (s : Scanner) : Except String (Int × Nat × Scanner) :=
  let chompOf (c : Option Char) : Option Int :=
    if c == some '+' then some 1 else if c == some '-' then some (-1) else none
  let digitOf (c : Option Char) : Option Nat :=
    match c with
    | some d => if d.isDigit then some (d.toNat - '0'.toNat) else none
    | none => none
  match chompOf s.cur with
  | some ch =>
    match digitOf (s.peek 1) with
    | some 0 => .error "found an indentation indicator equal to 0"
    | some d => .ok (ch, d, s.skip.skip)
    | none => .ok (ch, 0, s.skip)
  | none =>
    match digitOf s.cur with
    | some 0 => .error "found an indentation indicator equal to 0"
    | some d =>
      match chompOf (s.peek 1) with
      | some ch => .ok (ch, d, s.skip.skip)
      | none => .ok (0, d, s.skip)
    | none => .ok (0, 0, s)

/-- The lines of a block scalar at its indentation: `acc` so far, the line break after the
last line (`leading`), the empty lines since (`trailing`), and whether the last line started
with a blank. -/
def blockLines (literal : Bool) (indent : Nat) : Nat → String → String → String → Bool → Scanner →
    Except String (String × String × String × Scanner)
  | 0, acc, leading, trailing, _, s => .ok (acc, leading, trailing, s)
  | fuel + 1, acc, leading, trailing, leadingBlank, s =>
    if s.column == indent && s.cur.isSome then do
      let trailingBlank := (s.cur.map isBlank).getD false
      let acc :=
        if !literal && leading == "\n" && !leadingBlank && !trailingBlank then
          (if trailing.isEmpty then acc.push ' ' else acc)
        else acc ++ leading
      let acc := acc ++ trailing
      let leadingBlank := (s.cur.map isBlank).getD false
      let (acc, s) := readWhile (fun c => !isBreak c) s.fuel acc s
      let (leading, s) := s.readLine
      let (_, trailing, s) ← blockBreaks indent s.fuel 0 "" s
      blockLines literal indent fuel acc leading trailing leadingBlank s
    else pure (acc, leading, trailing, s)

/-- A block scalar from its `|` or `>`. Its indentation is the header's digit past the
enclosing block's column, or else the deepest indentation of its leading empty lines and first
line (at least one past the enclosing block). -/
def scanBlockScalar (literal : Bool) (s : Scanner) : Except String (Token × Scanner) := do
  let (chomp, increment, s) ← blockHeader s.skip
  let s := skipComment (skipWhile isBlank s.fuel s)
  unless breakz s.cur do throw "did not find expected comment or line break"
  let s := s.skipLine
  let given : Nat :=
    if increment == 0 then 0 else if s.indent ≥ 0 then s.indent.toNat + increment else increment
  let (deepest, trailing, s) ← blockBreaks given s.fuel 0 "" s
  let indent :=
    if given != 0 then given else max (max deepest (s.indent + 1).toNat) 1
  let (acc, leading, trailing, s) ← blockLines literal indent s.fuel "" "" trailing false s
  let acc := if chomp != -1 then acc ++ leading else acc
  let acc := if chomp == 1 then acc ++ trailing else acc
  pure (.scalar acc (if literal then .literal else .folded), s)

/-! ## Fetching tokens -/

/-- Steps over blanks, comments and line breaks to the next token. Tabs are skipped only in
flow context or where no simple key may start; a line break in block context lets a simple
key start. A byte order mark at the start of a line is skipped. -/
def toNextToken : Nat → Scanner → Scanner
  | 0, s => s
  | n + 1, s =>
    let s := if s.column == 0 && s.sees 0 '\uFEFF' then s.skip else s
    let tabs := s.flowLevel > 0 || !s.simpleKeyAllowed
    let s := skipWhile (fun c => c == ' ' || (tabs && c == '\t')) s.fuel s
    let s := skipComment s
    if (s.cur.map isBreak).getD false then
      let s := s.skipLine
      toNextToken n (if s.flowLevel == 0 then { s with simpleKeyAllowed := true } else s)
    else s

/-- The end of the stream. -/
def fetchStreamEnd (s : Scanner) : Except String Scanner := do
  let s := if s.column != 0 then { s with column := 0, line := s.line + 1 } else s
  let s ← (s.unroll (-1)).removeKey
  pure ({ s with simpleKeyAllowed := false, ended := true }.push .streamEnd)

/-- A directive line. -/
def fetchDirective (s : Scanner) : Except String Scanner := do
  let s ← (s.unroll (-1)).removeKey
  let (t, s) ← scanDirective { s with simpleKeyAllowed := false }
  pure (s.push t)

/-- A `---` or `...` marker. -/
def fetchDocumentMarker (t : Token) (s : Scanner) : Except String Scanner := do
  let s ← (s.unroll (-1)).removeKey
  pure ({ s with simpleKeyAllowed := false }.skip.skip.skip.push t)

/-- `[` or `{`, which may start a key. -/
def fetchFlowStart (t : Token) (s : Scanner) : Except String Scanner := do
  let s ← s.saveKey
  pure ({ s.enterFlow with simpleKeyAllowed := true }.skip.push t)

/-- `]` or `}`. -/
def fetchFlowEnd (t : Token) (s : Scanner) : Except String Scanner := do
  let s ← s.removeKey
  pure ({ s.leaveFlow with simpleKeyAllowed := false }.skip.push t)

/-- `,` between flow entries. -/
def fetchFlowEntry (s : Scanner) : Except String Scanner := do
  let s ← s.removeKey
  pure ({ s with simpleKeyAllowed := true }.skip.push .flowEntry)

/-- `-` before a sequence entry; in block context it may open a sequence. -/
def fetchBlockEntry (s : Scanner) : Except String Scanner := do
  let s ←
    if s.flowLevel == 0 then
      if !s.simpleKeyAllowed then throw "block sequence entries are not allowed in this context"
      else pure (s.rollIndent s.column none .blockSequenceStart)
    else pure s
  let s ← s.removeKey
  pure ({ s with simpleKeyAllowed := true }.skip.push .blockEntry)

/-- `?` before a complex key; in block context it may open a mapping. -/
def fetchKey (s : Scanner) : Except String Scanner := do
  let s ←
    if s.flowLevel == 0 then
      if !s.simpleKeyAllowed then throw "mapping keys are not allowed in this context"
      else pure (s.rollIndent s.column none .blockMappingStart)
    else pure s
  let s ← s.removeKey
  pure ({ s with simpleKeyAllowed := s.flowLevel == 0 }.skip.push .key)

/-- `:` after a key: a possible simple key becomes a key here. -/
def fetchValue (s : Scanner) : Except String Scanner := do
  let k := s.topKey
  let s ←
    if k.possible then
      let s := { s with tokens := s.tokens.insertIdxIfInBounds k.tokenNumber .key }
      let s := s.rollIndent k.column (some k.tokenNumber) .blockMappingStart
      pure { s.setTopKey { k with possible := false } with simpleKeyAllowed := false }
    else if s.flowLevel == 0 then
      if !s.simpleKeyAllowed then throw "mapping values are not allowed in this context"
      else pure { s.rollIndent s.column none .blockMappingStart with simpleKeyAllowed := true }
    else pure { s with simpleKeyAllowed := false }
  pure (s.skip.push .value)

/-- An anchor or alias, which may start a key. -/
def fetchAnchor (isAlias : Bool) (s : Scanner) : Except String Scanner := do
  let s ← s.saveKey
  let (t, s) ← scanAnchor isAlias { s with simpleKeyAllowed := false }
  pure (s.push t)

/-- A tag, which may start a key. -/
def fetchTag (s : Scanner) : Except String Scanner := do
  let s ← s.saveKey
  let (t, s) ← scanTag { s with simpleKeyAllowed := false }
  pure (s.push t)

/-- A block scalar; a key may follow it. -/
def fetchBlockScalar (literal : Bool) (s : Scanner) : Except String Scanner := do
  let s ← s.removeKey
  let (t, s) ← scanBlockScalar literal { s with simpleKeyAllowed := true }
  pure (s.push t)

/-- A quoted scalar, which may be a key. -/
def fetchQuoted (single : Bool) (s : Scanner) : Except String Scanner := do
  let s ← s.saveKey
  let (text, s) ← quotedRest single s.fuel "" { s with simpleKeyAllowed := false }.skip
  pure (s.push (.scalar text (if single then .singleQuoted else .doubleQuoted)))

/-- A plain scalar, which may be a key; a key may follow it on its next line. -/
def fetchPlain (s : Scanner) : Except String Scanner := do
  let s ← s.saveKey
  let s := { s with simpleKeyAllowed := false }
  let (g, text, s) ← plainRest (s.flowLevel > 0) (s.indent + 1) s.fuel ⟨false, "", "", ""⟩ "" s
  let s := if g.breaks then { s with simpleKeyAllowed := true } else s
  pure (s.push (.scalar text .plain))

/-- Whether the character at the position starts a plain scalar. -/
def startsPlain (s : Scanner) (c : Char) : Bool :=
  !(isBlank c || isBreak c || isIndicator c) ||
    (c == '-' && !((s.peek 1).map isBlank).getD false) ||
    (s.flowLevel == 0 && (c == '?' || c == ':') && !blankz (s.peek 1))

/-- Scans the next token (with the block ends before it). -/
def fetchNext (s : Scanner) : Except String Scanner := do
  let s := toNextToken s.fuel s
  let s ← s.staleKeys
  let s := s.unroll s.column
  match s.cur with
  | none => s.fetchStreamEnd
  | some c =>
    if s.column == 0 && c == '%' then s.fetchDirective
    else if s.atDocumentMarker && c == '-' then s.fetchDocumentMarker .documentStart
    else if s.atDocumentMarker && c == '.' then s.fetchDocumentMarker .documentEnd
    else if c == '[' then s.fetchFlowStart .flowSequenceStart
    else if c == '\x7b' then s.fetchFlowStart .flowMappingStart
    else if c == ']' then s.fetchFlowEnd .flowSequenceEnd
    else if c == '\x7d' then s.fetchFlowEnd .flowMappingEnd
    else if c == ',' then s.fetchFlowEntry
    else if c == '-' && blankz (s.peek 1) then s.fetchBlockEntry
    else if c == '?' && (s.flowLevel > 0 || blankz (s.peek 1)) then s.fetchKey
    else if c == ':' && (s.flowLevel > 0 || blankz (s.peek 1)) then s.fetchValue
    else if c == '*' then s.fetchAnchor true
    else if c == '&' then s.fetchAnchor false
    else if c == '!' then s.fetchTag
    else if c == '|' && s.flowLevel == 0 then s.fetchBlockScalar true
    else if c == '>' && s.flowLevel == 0 then s.fetchBlockScalar false
    else if c == '\'' then s.fetchQuoted true
    else if c == '"' then s.fetchQuoted false
    else if s.startsPlain c then s.fetchPlain
    else .error "found character that cannot start any token"

/-- Scans tokens up to the end of the stream. -/
def fetchAll : Nat → Scanner → Except String Scanner
  | 0, s => .ok s
  | n + 1, s => do
    let s ← s.fetchNext
    if s.ended then pure s else fetchAll n s

end Scanner

/-- The UTF-8 byte offset of each character of `cs`, and of the end. -/
def byteOffsets (cs : List Char) : Array Nat :=
  let (offsets, total) := cs.foldl (fun (acc : Array Nat × Nat) c =>
    (acc.1.push acc.2, acc.2 + c.utf8Size)) (#[], 0)
  offsets.push total

/-- The tokens of a YAML text, or why it cannot be scanned. Characters outside the printable
set are refused wherever they stand. A byte order mark is not taken off the text: like one at
the start of any line, it is stepped over as a character of that line, so what follows it
stands one column in. -/
def tokens (text : String) : Except String (Array Token) :=
  let cs := text.toList
  if !cs.all isPrintable then .error "control characters are not allowed"
  else
    let s : Scanner :=
      ⟨cs.toArray, byteOffsets cs, 0, 0, 0, #[.streamStart], 0, -1, [], true, [KeySpot.none],
        false⟩
    match Scanner.fetchAll (cs.length + 2) s with
    | .ok s => if s.ended then .ok s.tokens else .error "the stream did not end"
    | .error e => .error e

end Stencil.Yaml
