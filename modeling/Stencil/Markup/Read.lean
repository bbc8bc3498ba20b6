/-
Reading markup into raw nodes. Events are taken one at a time and placed under the innermost
open element; the first fault, of reading or of nesting, ends the reading. Void elements
(`br`, `img`, `input`, ...) are complete when opened, and their closing tags are ignored;
adjacent runs of text and references make one text node; an element left open at the end is a
fault naming the innermost one.
-/
import Stencil.Markup.Attribute
import Stencil.Markup.Raw
namespace Stencil.Markup

/-- Elements that never have content, so that `<br>` is complete on its own. -/
def voidElements : List String :=
  ["area", "base", "br", "col", "embed", "hr", "img", "input", "link", "meta", "source",
    "track", "wbr"]

/-- Whether an element name is that of a void element (case-sensitive). -/
def isVoid (name : String) : Bool := voidElements.contains name

/-- The kind of an element by its name: scripts, styles and links are set apart. -/
def RawKind.ofName (name : String) : RawKind :=
  if name == "script" then .script
  else if name == "style" then .style
  else if name == "link" then .link
  else .tag

/-- An open element and its children so far, the last one first. -/
structure Frame where
  node : RawNode
  kids : List RawNode

/-- The frame's element with its children in order. -/
def Frame.close (f : Frame) : RawNode := { f.node with children := f.kids.reverse }

/-- What reading has built so far: finished top-level nodes (the last one first) and the open
elements (the innermost first). -/
structure Sink where
  roots : List RawNode
  opened : List Frame

namespace Sink

/-- Nothing read yet. -/
def empty : Sink := ⟨[], []⟩

/-- Places a finished node after the last child of the innermost open element. -/
def push (s : Sink) (n : RawNode) : Sink :=
  match s.opened with
  | [] => { s with roots := n :: s.roots }
  | f :: fs => { s with opened := { f with kids := n :: f.kids } :: fs }

/-- Adds text, joining it to a text node that comes just before. -/
def pushText (s : Sink) (t : String) : Sink :=
  let join : List RawNode → List RawNode
    | last :: rest =>
      if last.kind == .text then { last with data := last.data ++ t } :: rest
      else RawNode.text t :: last :: rest
    | [] => [RawNode.text t]
  match s.opened with
  | [] => { s with roots := join s.roots }
  | f :: fs => { s with opened := { f with kids := join f.kids } :: fs }

/-- Closes the innermost open element, which must carry `name`; closing tags of void elements
are ignored. -/
def close (s : Sink) (name : String) : Except Fault Sink :=
  if isVoid name then .ok s
  else
    match s.opened with
    | [] => .error (.unmatched name)
    | f :: fs =>
      if f.node.name == name then .ok (Sink.push { s with opened := fs } f.close)
      else .error (.mismatched f.node.name name)

/-- Takes one event. -/
def feed (s : Sink) : Event → Except Fault Sink
  | .text t => .ok (s.pushText t)
  | .reference raw => .ok (s.pushText (resolveReference raw))
  | .start content => do
    let (name, attrs) ← readTag content
    let n : RawNode := ⟨RawKind.ofName name, name, "", attrs, []⟩
    if isVoid name then pure (s.push n) else pure { s with opened := ⟨n, []⟩ :: s.opened }
  | .empty content => do
    let (name, attrs) ← readTag content
    pure (s.push ⟨RawKind.ofName name, name, "", attrs, []⟩)
  | .close name => s.close name
  | .cdata t => .ok (s.push (RawNode.leaf .cdata t))
  | .comment t => .ok (s.push (RawNode.leaf .comment t))
  | .directive => .ok (s.push (RawNode.leaf .directive ""))

/-- The finished nodes, or the innermost element left open. -/
def finish (s : Sink) : Except Fault (List RawNode) :=
  match s.opened with
  | [] => .ok s.roots.reverse
  | f :: _ => .error (.unclosed f.node.name)

end Sink

/-- Reads events from `input` into `sink` until the input ends or a fault is found. -/
def readEvents (input : List Char) (sink : Sink) : Except Fault (List RawNode) :=
  match Event.next input with
  | .error f => .error f
  | .ok none => sink.finish
  | .ok (some (ev, rest)) =>
    match sink.feed ev with
    | .error f => .error f
    | .ok sink' => if rest.length < input.length then readEvents rest sink' else sink'.finish
termination_by input.length

/-- The raw nodes of a markup text; a byte-order mark at the start is skipped. -/
def parse (source : String) : Except Fault (List RawNode) :=
  let cs := match source.toList with
    | '﻿' :: rest => rest
    | cs => cs
  readEvents cs Sink.empty

end Stencil.Markup
