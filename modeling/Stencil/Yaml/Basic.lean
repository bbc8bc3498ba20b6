/-
YAML documents as the series of events that reading them produces: scalars (with whether they
were written plain and their resolved tag, which decide whether they can mean null), the
starts and ends of sequences and mappings, and aliases.

An anchor is given a number when the node it names starts: the number of distinct anchor
names met so far in the document. So a name used a second time takes a fresh number, and the
next new name takes that same number again. An alias stands for the number its name has
when the alias is read, and a number stands for the last node that took it, which may come
after the alias or contain it.
-/
namespace Stencil.Yaml

/-- An event of a YAML document. -/
inductive Event where
  /-- a scalar's text; `plain` when it was written without quotes or block indicator -/
  | scalar (text : String) (plain : Bool) (tag : Option String)
  | seqStart
  | seqEnd
  | mapStart
  | mapEnd
  /-- an alias, by the number its anchor name had where it was read -/
  | alias (id : Nat)
  /-- the one event of a stream without any document -/
  | void
deriving Repr, DecidableEq, Inhabited

/-- A document: its events, and the event each anchor number stands for. -/
structure Document where
  events : Array Event
  /-- anchor numbers with the position of the event they stand for, the latest first -/
  targets : List (Nat × Nat)
deriving Repr, Inhabited

/-- The document of a stream without any. -/
def Document.empty : Document := ⟨#[.void], []⟩

/-- The empty plain scalar, which an absent node reads as. -/
def Event.nothing : Event := .scalar "" true none

/-- The tag of null values. -/
def nullTag : String := "tag:yaml.org,2002:null"

/-- The spellings of null: `~` and `null` in one of its three cases. -/
def isNullWord (t : String) : Bool := t == "~" || t == "null" || t == "Null" || t == "NULL"

end Stencil.Yaml
