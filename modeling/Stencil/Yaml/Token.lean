/-
The tokens of YAML text and the character classes the scanner decides by. A stream is read
as a flat sequence of tokens: indicators, the start and end of indented blocks, anchors, tags,
and scalars with the style they were written in. Keys are marked by a `key` token placed
before them, which the scanner inserts once it sees the `:` that follows a key.
-/
namespace Stencil.Yaml

/-- How a scalar was written. -/
inductive Style where
  | plain
  | singleQuoted
  | doubleQuoted
  | literal
  | folded
deriving Repr, DecidableEq, Inhabited

/-- A token of YAML text. -/
inductive Token where
  | streamStart
  | streamEnd
  /-- a `%YAML major.minor` directive -/
  | version (major minor : Nat)
  /-- a `%TAG handle prefix` directive -/
  | tagDirective (handle pfx : String)
  | documentStart
  | documentEnd
  | blockSequenceStart
  | blockMappingStart
  | blockEnd
  | flowSequenceStart
  | flowSequenceEnd
  | flowMappingStart
  | flowMappingEnd
  | blockEntry
  | flowEntry
  | key
  | value
  | alias (name : String)
  | anchor (name : String)
  /-- a tag as written: its handle (empty for a verbatim tag) and its suffix -/
  | tag (handle suffix : String)
  | scalar (text : String) (style : Style)
deriving Repr, DecidableEq, Inhabited

/-- Line breaks: carriage return, line feed, next line, line and paragraph separators. -/
def isBreak (c : Char) : Bool :=
  c == '\r' || c == '\n' || c == '\x85' || c == '\u2028' || c == '\u2029'

/-- Blanks: space and tab. -/
def isBlank (c : Char) : Bool := c == ' ' || c == '\t'

/-- The characters of directive names, anchors and tag handles: ASCII letters and digits,
`_` and `-`. -/
def isWordChar (c : Char) : Bool := c.isAlphanum || c == '_' || c == '-'

/-- The characters a YAML stream may hold: tab, line feed, carriage return, the printable
ASCII characters, next line, and the rest of Unicode but for the C1 controls, surrogates and
the two non-characters `U+FFFE` and `U+FFFF`. -/
def isPrintable (c : Char) : Bool :=
  let v := c.toNat
  v == 0x9 || v == 0xA || v == 0xD || (0x20 ≤ v && v ≤ 0x7E) || v == 0x85 ||
    (0xA0 ≤ v && v ≤ 0xD7FF) || (0xE000 ≤ v && v ≤ 0xFFFD) || 0x10000 ≤ v

/-- A line break or the end of the input. -/
def breakz : Option Char → Bool
  | some c => isBreak c
  | none => true

/-- A blank, a line break or the end of the input. -/
def blankz : Option Char → Bool
  | some c => isBlank c || isBreak c
  | none => true

/-- The value of a hexadecimal digit. -/
def hexValue (c : Char) : Option Nat :=
  if '0' ≤ c && c ≤ '9' then some (c.toNat - '0'.toNat)
  else if 'a' ≤ c && c ≤ 'f' then some (c.toNat - 'a'.toNat + 10)
  else if 'A' ≤ c && c ≤ 'F' then some (c.toNat - 'A'.toNat + 10)
  else none

/-- Characters that cannot start a plain scalar (some of them can when a non-blank follows). -/
def isIndicator (c : Char) : Bool :=
  c == '-' || c == '?' || c == ':' || c == ',' || c == '[' || c == ']' || c == '\x7b' ||
    c == '\x7d' || c == '#' || c == '&' || c == '*' || c == '!' || c == '|' || c == '>' ||
    c == '\'' || c == '"' || c == '%' || c == '@' || c == '\x60'

/-- The flow indicators `,`, `[`, `]`, braces. -/
def isFlowIndicator (c : Char) : Bool :=
  c == ',' || c == '[' || c == ']' || c == '\x7b' || c == '\x7d'

/-- The characters of a tag after its handle; inside `!<...>` also `,`, `[` and `]`. -/
def isUriChar (verbatim : Bool) (c : Char) : Bool :=
  isWordChar c || c == ';' || c == '/' || c == '?' || c == ':' || c == '@' || c == '&' ||
    c == '=' || c == '+' || c == '$' || c == '.' || c == '%' || c == '!' || c == '~' ||
    c == '*' || c == '\'' || c == '(' || c == ')' ||
    (verbatim && (c == ',' || c == '[' || c == ']'))

/-- The characters that may follow an anchor or alias name. -/
def endsAnchor (c : Char) : Bool :=
  c == '?' || c == ':' || c == ',' || c == ']' || c == '\x7d' || c == '%' || c == '@' ||
    c == '\x60'

end Stencil.Yaml
