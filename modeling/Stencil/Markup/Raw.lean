/-
Raw markup nodes: what reading markup yields before any meaning is given to it. A node is
text, an element with its attributes in source order, or one of the kinds that shaping drops
(comments, scripts, styles, links, character data and directives).
-/
namespace Stencil.Markup

/-- The kind of a raw node. -/
inductive RawKind where
  | text
  | tag
  | comment
  | script
  | style
  | link
  | cdata
  | directive
deriving Repr, DecidableEq, Inhabited

/-- A node as markup gives it. -/
structure RawNode where
  kind : RawKind
  /-- the element name; empty for other nodes -/
  name : String
  /-- the text of text, comment and character-data nodes -/
  data : String
  /-- attributes in source order, repeats kept -/
  attributes : List (String × String)
  children : List RawNode
deriving Inhabited

namespace RawNode

/-- A text node. -/
def text (data : String) : RawNode := ⟨.text, "", data, [], []⟩

/-- An element without attributes or children. -/
def tag (name : String) : RawNode := ⟨.tag, name, "", [], []⟩

/-- A leaf of the given kind holding `data`. -/
def leaf (kind : RawKind) (data : String) : RawNode := ⟨kind, "", data, [], []⟩

/-- The node with one more attribute at the end. -/
def withAttribute (n : RawNode) (k v : String) : RawNode :=
  { n with attributes := n.attributes ++ [(k, v)] }

/-- The node with one more child at the end. -/
def withChild (n : RawNode) (c : RawNode) : RawNode :=
  { n with children := n.children ++ [c] }

end RawNode

end Stencil.Markup
