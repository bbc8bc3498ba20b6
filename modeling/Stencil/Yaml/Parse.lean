/-
Parsing YAML tokens into the events of documents. Each node may carry an anchor and a tag; an
alias is refused unless an anchor of its name came before it in the same document. In block
context a mapping's value may be a sequence whose `-` stands at the column of the keys. Empty
keys, values and entries read as the empty plain scalar.

A `?` in a flow sequence starts a mapping of one pair. When the key of that pair is empty, the
token after the `?` (a `:`, a `,` or the closing `]`) is taken as the end of the key and is
consumed with it: so `[? : : ]` is a sequence of one pair of empty nodes, while `[? ]`, `[?]`
and `[? , a]` lose the token that should have closed or continued the sequence and are refused.

Every call of `node` reads at least one token, so the number of tokens bounds how deep the
reading can go.
-/
import Stencil.Yaml.Basic
import Stencil.Yaml.Scan
namespace Stencil.Yaml

/-- The state of a parse. -/
structure Parser where
  tokens : Array Token
  pos : Nat
  /-- the events of the current document so far -/
  events : Array Event
  /-- anchor names with their numbers, one entry a name -/
  anchors : List (String × Nat)
  /-- anchor numbers with the position of the event they stand for, the latest first -/
  targets : List (Nat × Nat)
  /-- the tag handles of the document with their prefixes -/
  handles : List (String × String)

namespace Parser

/-- The next token. -/
def peek (p : Parser) : Token := p.tokens.getD p.pos .streamEnd

/-- Steps over the next token. -/
def next (p : Parser) : Parser := { p with pos := p.pos + 1 }

/-- Appends an event to the document. -/
def emit (p : Parser) (e : Event) : Parser := { p with events := p.events.push e }

/-- A bound on the depth of reading from the position. -/
def fuel (p : Parser) : Nat := p.tokens.size - p.pos + 2

/-- The number an alias of this name stands for. -/
def aliasId (p : Parser) (name : String) : Except String Nat :=
  match p.anchors.lookup name with
  | some id => .ok id
  | none => .error ("unknown anchor " ++ name)

/-- Gives an anchor name to the node whose first event comes next: its number is the count
of distinct names before it. -/
def anchorNext (p : Parser) (name : String) : Parser :=
  let id := p.anchors.length
  { p with anchors := (name, id) :: p.anchors.filter (fun e => e.1 != name),
           targets := (id, p.events.size) :: p.targets }

/-- A tag text up to its first NUL character, which a `%00` escape can put there: tags are
kept as NUL-terminated texts, so what follows the NUL is lost. -/
def untilNul (t : String) : String := String.ofList (t.toList.takeWhile (· != '\x00'))

/-- The full tag of a handle and suffix, through the document's tag handles; the prefix and
the suffix are each cut at their first NUL before they are joined. -/
def resolveTag (p : Parser) (handle suffix : String) : Except String String :=
  if handle.isEmpty then .ok (untilNul suffix)
  else
    match p.handles.lookup handle with
    | some pfx => .ok (untilNul pfx ++ untilNul suffix)
    | none => .error "found undefined tag handle"

/-- The anchor and tag before a node, in either order. -/
def properties (p : Parser) : Except String (Option String × Option String × Parser) :=
  match p.peek with
  | .anchor a =>
    match p.next.peek with
    | .tag h s => do pure (some a, some (← p.resolveTag h s), p.next.next)
    | _ => .ok (some a, none, p.next)
  | .tag h s => do
    let t ← p.resolveTag h s
    match p.next.peek with
    | .anchor a => pure (some a, some t, p.next.next)
    | _ => pure (none, some t, p.next)
  | _ => .ok (none, none, p)

/-- Whether a token ends an entry of a block mapping, leaving its key or value empty. -/
def endsBlockPart : Token → Bool
  | .key | .value | .blockEnd => true
  | _ => false

/-- Whether a token ends a key of a flow mapping. -/
def endsFlowKey : Token → Bool
  | .value | .flowEntry | .flowMappingEnd => true
  | _ => false

/-- Whether a token ends the key of a pair in a flow sequence. -/
def endsPairKey : Token → Bool
  | .value | .flowEntry | .flowSequenceEnd => true
  | _ => false

mutual

/-- A node. Block collections may stand here when `block`; with `indentless`, a sequence whose
`-` is at the column of the enclosing mapping's keys. -/
def node : Nat → Bool → Bool → Parser → Except String Parser
  | 0, _, _, _ => .error "the document is nested too deeply"
  | fuel + 1, block, indentless, p =>
    match p.peek with
    | .alias name => do pure (p.next.emit (.alias (← p.aliasId name)))
    | _ => do
      let (anchor, tag, p) ← p.properties
      let p := match anchor with
        | some a => p.anchorNext a
        | none => p
      if indentless && p.peek == .blockEntry then indentlessEntries fuel (p.emit .seqStart)
      else
        match p.peek with
        | .scalar text style => pure (p.next.emit (.scalar text (style == .plain) tag))
        | .flowSequenceStart => flowSeqEntries fuel true (p.next.emit .seqStart)
        | .flowMappingStart => flowMapEntries fuel true (p.next.emit .mapStart)
        | .blockSequenceStart =>
          if block then blockSeqEntries fuel (p.next.emit .seqStart)
          else throw "did not find expected node content"
        | .blockMappingStart =>
          if block then blockMapEntries fuel (p.next.emit .mapStart)
          else throw "did not find expected node content"
        | _ =>
          if anchor.isSome || tag.isSome then pure (p.emit (.scalar "" true tag))
          else throw "did not find expected node content"

/-- The entries of a block sequence after its start. -/
def blockSeqEntries : Nat → Parser → Except String Parser
  | 0, _ => .error "the document is nested too deeply"
  | fuel + 1, p =>
    match p.peek with
    | .blockEntry =>
      match p.next.peek with
      | .blockEntry | .blockEnd => blockSeqEntries fuel (p.next.emit .nothing)
      | _ => do blockSeqEntries fuel (← node fuel true false p.next)
    | .blockEnd => .ok (p.next.emit .seqEnd)
    | _ => .error "did not find expected \x27-\x27 indicator"

/-- The entries of a sequence whose `-` stands at the column of the enclosing keys. -/
def indentlessEntries : Nat → Parser → Except String Parser
  | 0, _ => .error "the document is nested too deeply"
  | fuel + 1, p =>
    match p.peek with
    | .blockEntry =>
      match p.next.peek with
      | .blockEntry | .key | .value | .blockEnd => indentlessEntries fuel (p.next.emit .nothing)
      | _ => do indentlessEntries fuel (← node fuel true false p.next)
    | _ => .ok (p.emit .seqEnd)

/-- The entries of a block mapping after its start. -/
def blockMapEntries : Nat → Parser → Except String Parser
  | 0, _ => .error "the document is nested too deeply"
  | fuel + 1, p =>
    match p.peek with
    | .key => do
      let p := p.next
      let p ← if endsBlockPart p.peek then pure (p.emit .nothing) else node fuel true true p
      let p ←
        if p.peek == .value then
          if endsBlockPart p.next.peek then pure (p.next.emit .nothing)
          else node fuel true true p.next
        else pure (p.emit .nothing)
      blockMapEntries fuel p
    | .blockEnd => .ok (p.next.emit .mapEnd)
    | _ => .error "did not find expected key"

/-- The entries of a flow sequence after `[` (or after an entry, when not `first`); a
`key` token starts a mapping of one pair. -/
def flowSeqEntries : Nat → Bool → Parser → Except String Parser
  | 0, _, _ => .error "the document is nested too deeply"
  | fuel + 1, first, p =>
    if p.peek == .flowSequenceEnd then .ok (p.next.emit .seqEnd)
    else do
      let p ←
        if first then pure p
        else if p.peek == .flowEntry then pure p.next
        else throw "did not find expected \x27,\x27 or \x27]\x27"
      match p.peek with
      | .flowSequenceEnd => pure (p.next.emit .seqEnd)
      | .key => do
        let p := p.next.emit .mapStart
        let p ← if endsPairKey p.peek then pure (p.next.emit .nothing) else node fuel false false p
        let p ←
          if p.peek == .value then
            if p.next.peek == .flowEntry || p.next.peek == .flowSequenceEnd then
              pure (p.next.emit .nothing)
            else node fuel false false p.next
          else pure (p.emit .nothing)
        flowSeqEntries fuel false (p.emit .mapEnd)
      | _ => do flowSeqEntries fuel false (← node fuel false false p)

/-- The entries of a flow mapping after `{` (or after an entry, when not `first`); a key
without `?` or `:` has an empty value. -/
def flowMapEntries : Nat → Bool → Parser → Except String Parser
  | 0, _, _ => .error "the document is nested too deeply"
  | fuel + 1, first, p =>
    if p.peek == .flowMappingEnd then .ok (p.next.emit .mapEnd)
    else do
      let p ←
        if first then pure p
        else if p.peek == .flowEntry then pure p.next
        else throw "did not find expected \x27,\x27 or \x27\x7d\x27"
      match p.peek with
      | .flowMappingEnd => pure (p.next.emit .mapEnd)
      | .key => do
        let p := p.next
        let p ← if endsFlowKey p.peek then pure (p.emit .nothing) else node fuel false false p
        let p ←
          if p.peek == .value then
            if p.next.peek == .flowEntry || p.next.peek == .flowMappingEnd then
              pure (p.next.emit .nothing)
            else node fuel false false p.next
          else pure (p.emit .nothing)
        flowMapEntries fuel false p
      | _ => do
        let p ← node fuel false false p
        flowMapEntries fuel false (p.emit .nothing)

end

/-- The two tag handles every document has. -/
def standardHandles : List (String × String) := [("!", "!"), ("!!", "tag:yaml.org,2002:")]

/-- The directives before a document: the tag handles it declares. At most one `%YAML`
directive, of version 1.1 or 1.2, and no handle twice. -/
def directives : Nat → Bool → List (String × String) → Parser →
    Except String (List (String × String) × Parser)
  | 0, _, hs, p => .ok (hs, p)
  | fuel + 1, seenVersion, hs, p =>
    match p.peek with
    | .version major minor =>
      if seenVersion then .error "found duplicate %YAML directive"
      else if major != 1 || (minor != 1 && minor != 2) then .error "found incompatible YAML document"
      else directives fuel true hs p.next
    | .tagDirective h pfx =>
      if (hs.lookup h).isSome then .error "found duplicate %TAG directive"
      else directives fuel seenVersion (hs ++ [(h, pfx)]) p.next
    | _ => .ok (hs, p)

/-- Steps over `...` markers. -/
def skipDocumentEnds : Nat → Parser → Parser
  | 0, p => p
  | n + 1, p => if p.peek == .documentEnd then skipDocumentEnds n p.next else p

/-- Whether a token ends a document that has no content. -/
def endsEmptyDocument : Token → Bool
  | .version .. | .tagDirective .. | .documentStart | .documentEnd | .streamEnd => true
  | _ => false

/-- The parser at the start of a document with these tag handles: no events and no anchors
yet. -/
def startDocument (p : Parser) (hs : List (String × String)) : Parser :=
  { p with events := #[], anchors := [], targets := [], handles := hs }

/-- The documents of a stream from the position; `implicit` when no document came before, so
that one may start without `---`. Anchors do not reach from one document into the next. -/
def documents : Nat → Bool → List Document → Parser → Except String (List Document)
  | 0, _, acc, _ => .ok acc.reverse
  | fuel + 1, implicit, acc, p => do
    let p := if implicit then p else skipDocumentEnds p.fuel p
    match p.peek with
    | .streamEnd => pure acc.reverse
    | t => do
      let p ←
        if implicit && !(t matches .version .. | .tagDirective .. | .documentStart) then
          node p.fuel true false (p.startDocument standardHandles)
        else do
          let (hs, p) ← directives p.fuel false [] p
          unless p.peek == .documentStart do throw "did not find expected <document start>"
          let p := p.next.startDocument (hs ++ standardHandles)
          if endsEmptyDocument p.peek then pure (p.emit .nothing) else node p.fuel true false p
      let d : Document := ⟨p.events, p.targets⟩
      let p := if p.peek == .documentEnd then p.next else p
      documents fuel false (d :: acc) p

end Parser

/-- The documents of a YAML text, or why it cannot be read. -/
def documents (text : String) : Except String (List Document) := do
  let ts ← tokens text
  let p : Parser := ⟨ts, 0, #[], [], [], []⟩
  unless p.peek == .streamStart do throw "did not find expected <stream-start>"
  Parser.documents (ts.size + 1) true [] p.next

end Stencil.Yaml
