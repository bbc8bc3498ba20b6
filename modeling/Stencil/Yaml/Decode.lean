/-
Reading typed values from the events of a YAML document. A reader starts at a node's first
event and returns the value with the position after the node.

An alias is followed to the node its number stands for, and the reading goes on after the
alias. Every alias followed counts, and once the count passes a hundred times the number of
the document's events the reading is refused: aliases to collections of aliases can otherwise
make a short document stand for an enormous value. A node that is skipped (the value of a key
nobody reads) is stepped over event by event without following its aliases, so it counts
nothing.

The values read here nest three collections deep at most, so no limit on nesting is needed.
-/
import Stencil.Yaml.Basic
namespace Stencil.Yaml

variable {α κ ν σ : Type}

/-- Where reading stands: the position in the events, and the number of aliases followed. -/
structure Cursor where
  pos : Nat
  jumps : Nat
deriving Repr, DecidableEq

/-- A reader of one node: its value and where reading goes on. -/
abbrev Decode (α : Type) := Document → Cursor → Except String (α × Cursor)

/-- The event at a position. -/
def Document.event (d : Document) (i : Nat) : Except String Event :=
  match d.events[i]? with
  | some e => .ok e
  | none => .error "EOF while parsing a value"

/-- The most aliases a document may have followed while reading it. -/
def Document.jumpLimit (d : Document) : Nat := d.events.size * 100

/-- A reader that follows an alias standing where the node should be, then reads the node
with `read`; `read` itself sees no alias, since an anchor names a node, not an alias. -/
def follow (read : Decode α) : Decode α := fun d c => do
  match ← d.event c.pos with
  | .alias id =>
    let jumps := c.jumps + 1
    if jumps > d.jumpLimit then throw "repetition limit exceeded"
    match d.targets.lookup id with
    | none => throw "unresolved alias"
    | some target =>
      let (a, c') ← read d ⟨target, jumps⟩
      pure (a, ⟨c.pos + 1, c'.jumps⟩)
  | _ => read d c

/-- A text from a scalar, whatever its tag or style. -/
def textHere : Decode String := fun d c => do
  match ← d.event c.pos with
  | .scalar t _ _ => pure (t, { c with pos := c.pos + 1 })
  | .seqStart => throw "invalid type: sequence, expected a string"
  | .mapStart => throw "invalid type: map, expected a string"
  | _ => throw "invalid type: unit value, expected a string"

/-- A text. -/
def text : Decode String := follow textHere

/-- An optional text. It is absent for an untagged plain scalar that is empty or spells null,
for a plain scalar with the null tag that spells null, and for the empty stream. A plain
scalar with the null tag that spells anything else is refused. Any other node is present,
and must be a text. -/
def optionalTextHere : Decode (Option String) := fun d c => do
  match ← d.event c.pos with
  | .scalar t true none =>
    if t.isEmpty || isNullWord t then pure (none, { c with pos := c.pos + 1 })
    else pure (some t, { c with pos := c.pos + 1 })
  | .scalar t true (some tag) =>
    if tag != nullTag then pure (some t, { c with pos := c.pos + 1 })
    else if isNullWord t then pure (none, { c with pos := c.pos + 1 })
    else throw ("invalid value: string " ++ t ++ ", expected null")
  | .void => pure (none, { c with pos := c.pos + 1 })
  | _ => do
    let (t, c) ← textHere d c
    pure (some t, c)

/-- An optional text, through an alias. -/
def optionalText : Decode (Option String) := follow optionalTextHere

/-- The position after the node at `pos`, stepped over without following aliases; `depth`
counts the collections entered and not yet left. -/
def skipFrom (d : Document) : Nat → Nat → Nat → Except String Nat
  | 0, _, _ => .error "EOF while parsing a value"
  | fuel + 1, depth, pos => do
    let depth' ← match ← d.event pos with
      | .seqStart | .mapStart => pure (depth + 1)
      | .seqEnd | .mapEnd =>
        if depth == 0 then throw "unexpected end of a collection" else pure (depth - 1)
      | _ => pure depth
    if depth' == 0 then pure (pos + 1) else skipFrom d fuel depth' (pos + 1)

/-- Steps over a node, following none of its aliases. -/
def skip : Decode Unit := fun d c => do
  let pos ← skipFrom d (d.events.size + 1) 0 c.pos
  pure ((), { c with pos := pos })

/-- Reads the entries of a mapping from after its start up to its end, updating `acc` with
`step` at each key; `step` reads the entry's value. -/
def foldEntries (key : Decode κ) (step : σ → κ → Decode σ) (d : Document) :
    Nat → σ → Cursor → Except String (σ × Cursor)
  | 0, _, _ => .error "EOF while parsing a mapping"
  | fuel + 1, acc, c => do
    match ← d.event c.pos with
    | .mapEnd | .void => pure (acc, { c with pos := c.pos + 1 })
    | _ => do
      let (k, c) ← key d c
      let (acc, c) ← step acc k d c
      foldEntries key step d fuel acc c

/-- Reads a mapping into `init` by `step`. An empty plain scalar, whatever its tag, and the
empty stream stand for the empty mapping. -/
def foldMapHere (key : Decode κ) (step : σ → κ → Decode σ) (init : σ) : Decode σ := fun d c => do
  match ← d.event c.pos with
  | .mapStart => foldEntries key step d (d.events.size + 1) init { c with pos := c.pos + 1 }
  | .scalar "" true _ | .void => pure (init, { c with pos := c.pos + 1 })
  | .seqStart => throw "invalid type: sequence, expected a map"
  | _ => throw "invalid type: expected a map"

/-- The entries of a mapping, in document order, repeats kept. -/
def entries (key : Decode κ) (value : Decode ν) : Decode (List (κ × ν)) := fun d c => do
  let step := fun (acc : List (κ × ν)) (k : κ) (d : Document) (c : Cursor) => do
    let (v, c) ← value d c
    pure ((k, v) :: acc, c)
  let (es, c) ← follow (foldMapHere key step []) d c
  pure (es.reverse, c)

/-- Reads a whole document with a reader of its node. -/
def Document.decode (d : Document) (read : Decode α) : Except String α :=
  (read d ⟨0, 0⟩).map (·.1)

end Stencil.Yaml
