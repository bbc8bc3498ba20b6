/-
Reading markup as a stack machine over events. Whatever events the reader yields, ended by the end
of the input or by a reading fault, each is first decoded into a piece (text, a finished node, an
element opened or closed; a void element's closing tag into nothing, a tag's attribute fault into
that fault), and the pieces drive the open elements.

Against this sit two grammars: `Balanced` pieces, and the forest pieces `Spelled` (each maximal run
of text joined into one node). Well-bracketed pieces applied at any level place the forest they
spell there (`Spelled.applyAll`); pieces that merely begin a well-bracketed sequence leave open the
elements `OpenAfter` names, and applying a piece keeps that relation (`OpenAfter.applyAll`). So the
machine succeeds exactly on well-bracketed pieces of a stream that ends at the end of the input,
returning what they spell (`Sink.run_eq_ok_iff`), and fails exactly with the first fault of the
stream in order (`Sink.run_eq_error_iff`): an event's own fault or a closing that is not the
innermost open element, else the reader's fault, else the innermost element left open.
-/
import Stencil.Markup.Read
import Mathlib.Tactic.SplitIfs
import Mathlib.Data.List.Chain

namespace Stencil.Markup

/-! ## Events decoded into pieces -/

theorem RawKind.ofName_ne_text (name : String) : RawKind.ofName name ≠ .text := by
  unfold RawKind.ofName
  split_ifs <;> decide

/-- What reading does with one event once it is decoded: text to add, a finished node to place, an
element to open, or the innermost element to close. Nodes here are never text. -/
inductive Piece where
  | text (s : String)
  | leaf (n : RawNode) (notText : n.kind ≠ .text)
  | opening (n : RawNode) (notText : n.kind ≠ .text)
  | closing (name : String)

/-- Whether a piece is text. -/
def Piece.isText : Piece → Bool
  | .text _ => true
  | _ => false

/-- The node an opening or self-closing tag makes, its kind given by its name. -/
def tagNode (name : String) (attrs : List (String × String)) : RawNode :=
  ⟨RawKind.ofName name, name, "", attrs, []⟩

/-- The piece of an event: nothing for the closing tag of a void element, or the fault of reading
the attributes of a tag. -/
def Event.piece? : Event → Except Fault (Option Piece)
  | .text t => .ok (some (.text t))
  | .reference raw => .ok (some (.text (resolveReference raw)))
  | .start content => (readTag content).map fun (name, attrs) =>
    if isVoid name then some (.leaf (tagNode name attrs) (RawKind.ofName_ne_text name))
    else some (.opening (tagNode name attrs) (RawKind.ofName_ne_text name))
  | .empty content => (readTag content).map fun (name, attrs) =>
    some (.leaf (tagNode name attrs) (RawKind.ofName_ne_text name))
  | .close name => .ok (if isVoid name then none else some (.closing name))
  | .cdata t => .ok (some (.leaf (RawNode.leaf .cdata t) (by simp [RawNode.leaf])))
  | .comment t => .ok (some (.leaf (RawNode.leaf .comment t) (by simp [RawNode.leaf])))
  | .directive => .ok (some (.leaf (RawNode.leaf .directive "") (by simp [RawNode.leaf])))

/-- The pieces of events, or the first fault of decoding one. -/
def Event.pieces : List Event → Except Fault (List Piece)
  | [] => .ok []
  | ev :: evs => ev.piece?.bind fun p? => (Event.pieces evs).map (p?.toList ++ ·)

/-- The events read from an input, up to its end or up to a reading fault, which ends them. -/
def Event.stream (input : List Char) : List Event × Option Fault :=
  match Event.next input with
  | .error f => ([], some f)
  | .ok none => ([], none)
  | .ok (some (ev, rest)) =>
    if rest.length < input.length then (ev :: (Event.stream rest).1, (Event.stream rest).2) else ([ev], none)
termination_by input.length

namespace Sink

/-- What a piece does to the open elements: text and finished nodes go after the last child of the
innermost one, an opening adds one, and a closing closes the innermost one, which must carry its
name. -/
def apply (s : Sink) : Piece → Except Fault Sink
  | .text t => .ok (s.pushText t)
  | .leaf n _ => .ok (s.push n)
  | .opening n _ => .ok { s with opened := ⟨n, []⟩ :: s.opened }
  | .closing name =>
    match s.opened with
    | [] => .error (.unmatched name)
    | f :: fs => if f.node.name == name then .ok (Sink.push { s with opened := fs } f.close)
      else .error (.mismatched f.node.name name)

/-- The pieces applied in turn, up to the first fault. -/
def applyAll : Sink → List Piece → Except Fault Sink
  | s, [] => .ok s
  | s, p :: ps => (s.apply p).bind (applyAll · ps)

/-- The events fed in turn, up to the first fault. -/
def feedAll : Sink → List Event → Except Fault Sink
  | s, [] => .ok s
  | s, ev :: evs => (s.feed ev).bind (feedAll · evs)

/-- Reading a stream of events that ends at the end of the input (`stop = none`) or at the reading
fault `stop`. -/
def run (s : Sink) (evs : List Event) (stop : Option Fault) : Except Fault (List RawNode) :=
  (s.feedAll evs).bind fun s' =>
    match stop with
    | some f => .error f
    | none => s'.finish

theorem feed_eq (s : Sink) (ev : Event) :
    s.feed ev = ev.piece?.bind fun p? =>
      match p? with
      | none => .ok s
      | some p => s.apply p := by
  cases ev with
  | start content =>
    simp only [feed, Event.piece?]
    cases readTag content with
    | error f => rfl
    | ok r =>
      obtain ⟨name, attrs⟩ := r
      by_cases hv : isVoid name = true <;> simp [hv, Except.map, bind, Except.bind, pure, Except.pure, apply, tagNode]
  | empty content =>
    simp only [feed, Event.piece?]
    cases readTag content with
    | error f => rfl
    | ok r => rfl
  | close name =>
    by_cases hv : isVoid name = true
    · simp [feed, Event.piece?, close, hv, Except.bind]
    · simp only [feed, Event.piece?, close, hv, Bool.false_eq_true, if_false]
      rfl
  | _ => rfl

end Sink

/-- Reading events one at a time from an input is running the stream the reader yields from it. -/
theorem readEvents_eq_run (input : List Char) (s : Sink) :
    readEvents input s = s.run (Event.stream input).1 (Event.stream input).2 := by
  induction input using Event.stream.induct generalizing s with
  | case1 input f h =>
    rw [readEvents, Event.stream, h]
    rfl
  | case2 input h =>
    rw [readEvents, Event.stream, h]
    rfl
  | case3 input ev rest h hlt ih =>
    -- an event read with progress: fed, then the rest read from where it stopped
    rw [readEvents, Event.stream, h]
    simp only [hlt, if_true]
    cases hf : s.feed ev with
    | error f => simp [Sink.run, Sink.feedAll, hf, Except.bind]
    | ok s' => simp [Sink.run, Sink.feedAll, hf, Except.bind, ih s']
  | case4 input ev rest h hlt =>
    rw [readEvents, Event.stream, h]
    simp only [hlt, if_false]
    cases hf : s.feed ev <;> simp [Sink.run, Sink.feedAll, hf, Except.bind]

/-! ## Well-bracketed pieces and the forests they spell -/

/-- Well-bracketed pieces: every opening is matched by a later closing of its name, with the pieces
between them well-bracketed. -/
inductive Balanced : List Piece → Prop
  | nil : Balanced []
  | text {ps : List Piece} (s : String) : Balanced ps → Balanced (.text s :: ps)
  | leaf {ps : List Piece} (n : RawNode) (h : n.kind ≠ .text) : Balanced ps → Balanced (.leaf n h :: ps)
  | element {inner ps : List Piece} (n : RawNode) (h : n.kind ≠ .text) :
      Balanced inner → Balanced ps → Balanced (.opening n h :: inner ++ .closing n.name :: ps)

/-- The forest pieces spell: one text node for each maximal run of text pieces, joining their
texts; a leaf piece's node; and for an opening piece, the pieces after it up to the closing piece of
its name, and that closing, an element holding the forest those pieces spell. -/
inductive Spelled : List RawNode → List Piece → Prop
  | nil : Spelled [] []
  /-- the last piece of a run of text -/
  | text {f : List RawNode} {ps : List Piece} (s : String) :
      Spelled f ps → (ps.head?.any Piece.isText) = false → Spelled (RawNode.text s :: f) (.text s :: ps)
  /-- a piece of text before more text -/
  | textMore {f : List RawNode} {ps : List Piece} (s t : String) :
      Spelled (RawNode.text t :: f) ps → Spelled (RawNode.text (s ++ t) :: f) (.text s :: ps)
  | leaf {f : List RawNode} {ps : List Piece} (n : RawNode) (h : n.kind ≠ .text) :
      Spelled f ps → Spelled (n :: f) (.leaf n h :: ps)
  | element {kids f : List RawNode} {inner ps : List Piece} (n : RawNode) (h : n.kind ≠ .text) :
      Spelled kids inner → Spelled f ps →
        Spelled ({ n with children := kids } :: f) (.opening n h :: inner ++ .closing n.name :: ps)

theorem Balanced.append {ps qs : List Piece} (hp : Balanced ps) (hq : Balanced qs) : Balanced (ps ++ qs) := by
  induction hp with
  | nil => exact hq
  | text s _ ih => exact .text s ih
  | leaf n h _ ih => exact .leaf n h ih
  | element n h hi _ _ ih => simpa using Balanced.element n h hi ih

theorem Spelled.balanced {f : List RawNode} {ps : List Piece} (h : Spelled f ps) : Balanced ps := by
  induction h with
  | nil => exact .nil
  | text s _ _ ih => exact .text s ih
  | textMore s t _ ih => exact .text s ih
  | leaf n h _ ih => exact .leaf n h ih
  | element n h _ _ ihi ih => exact .element n h ihi ih

theorem Spelled.head_isText {f : List RawNode} {ps : List Piece} (h : Spelled f ps) :
    (f.head?.any fun n => n.kind == .text) = ps.head?.any Piece.isText := by
  cases h with
  | nil => rfl
  | text => rfl
  | textMore => rfl
  | leaf n h => simpa [Piece.isText] using h
  | element n h => simpa [Piece.isText] using h

theorem Spelled.text_head {f : List RawNode} {s : String} {ps : List Piece} (h : Spelled f (.text s :: ps)) :
    ∃ t f', f = RawNode.text t :: f' := by
  cases h with
  | text => exact ⟨_, _, rfl⟩
  | textMore => exact ⟨_, _, rfl⟩

/-- Well-bracketed pieces spell a forest. -/
theorem Balanced.spelled {ps : List Piece} (h : Balanced ps) : ∃ f, Spelled f ps := by
  induction h with
  | nil => exact ⟨[], .nil⟩
  | @text ps s _ ih =>
    obtain ⟨f, hf⟩ := ih
    -- text before text joins the run that follows; otherwise it ends a run of its own
    cases hps : ps.head?.any Piece.isText with
    | true =>
      cases ps with
      | nil => simp at hps
      | cons p ps' =>
        cases p with
        | text u =>
          obtain ⟨t, f', rfl⟩ := hf.text_head
          exact ⟨_, .textMore s t hf⟩
        | _ => simp [Piece.isText] at hps
    | false => exact ⟨_, .text s hf hps⟩
  | leaf n h _ ih =>
    obtain ⟨f, hf⟩ := ih
    exact ⟨_, .leaf n h hf⟩
  | element n h _ _ ihi ih =>
    obtain ⟨kids, hk⟩ := ihi
    obtain ⟨f, hf⟩ := ih
    exact ⟨_, .element n h hk hf⟩

/-- Sibling nodes as reading leaves them: every text node a plain one, and no two text nodes side
by side. -/
structure TextsJoined (f : List RawNode) : Prop where
  plain : ∀ n ∈ f, n.kind = .text → n = RawNode.text n.data
  apart : f.IsChain fun a b => ¬ (a.kind = .text ∧ b.kind = .text)

theorem TextsJoined.cons {f : List RawNode} {n : RawNode} (hn : n.kind ≠ .text) (h : TextsJoined f) :
    TextsJoined (n :: f) := by
  refine ⟨fun m hm hk => ?_, ?_⟩
  · rcases List.mem_cons.1 hm with rfl | hm
    · exact absurd hk hn
    · exact h.plain m hm hk
  · cases f with
    | nil => exact .singleton _
    | cons m f => exact List.isChain_cons_cons.2 ⟨fun hk => hn hk.1, h.apart⟩

/-- Spelled forests keep texts joined. -/
theorem Spelled.textsJoined {f : List RawNode} {ps : List Piece} (h : Spelled f ps) : TextsJoined f := by
  induction h with
  | nil => exact ⟨by simp, .nil⟩
  | @text f ps s hf hps ih =>
    have hhead := hf.head_isText
    rw [hps] at hhead
    refine ⟨fun n hn hk => ?_, ?_⟩
    · rcases List.mem_cons.1 hn with rfl | hn
      · rfl
      · exact ih.plain n hn hk
    · -- the run ends here: what follows is no text
      cases f with
      | nil => exact .singleton _
      | cons m f =>
        refine List.isChain_cons_cons.2 ⟨fun hk => ?_, ih.apart⟩
        simp [hk.2] at hhead
  | @textMore f ps s t _ ih =>
    refine ⟨fun n hn hk => ?_, ?_⟩
    · rcases List.mem_cons.1 hn with rfl | hn
      · rfl
      · exact ih.plain n (List.mem_cons_of_mem _ hn) hk
    · cases f with
      | nil => exact .singleton _
      | cons m f => exact List.isChain_cons_cons.2 ⟨(List.isChain_cons_cons.1 ih.apart).1, (List.isChain_cons_cons.1 ih.apart).2⟩
  | leaf n hn _ ih => exact ih.cons hn
  | element n hn _ _ _ ih => exact ih.cons hn

/-! ## Where pieces place nodes -/

/-- Text added after siblings (the last one first): joined to a text node just before it, or a new
text node. -/
def joinText (t : String) : List RawNode → List RawNode
  | last :: rest => if last.kind == .text then { last with data := last.data ++ t } :: rest else RawNode.text t :: last :: rest
  | [] => [RawNode.text t]

theorem joinText_joinText (s t : String) (l : List RawNode) : joinText t (joinText s l) = joinText (s ++ t) l := by
  cases l with
  | nil => rfl
  | cons last rest =>
    by_cases hk : (last.kind == .text) = true
    · simp [joinText, hk, String.append_assoc]
    · simp only [joinText, hk, Bool.false_eq_true, if_false]
      rfl

/-- A node placed after siblings (the last one first) as reading places it: text is joined to a
text node just before it. -/
def place (l : List RawNode) (n : RawNode) : List RawNode :=
  if n.kind == .text then joinText n.data l else n :: l

theorem foldl_place {f : List RawNode} (hf : TextsJoined f) :
    ∀ l : List RawNode, (∀ x ∈ l.head?, ∀ y ∈ f.head?, ¬ (x.kind = .text ∧ y.kind = .text)) →
      f.foldl place l = f.reverse ++ l := by
  induction f with
  | nil => intro l _; rfl
  | cons n f ih =>
    intro l hl
    have hf' : TextsJoined f :=
      ⟨fun m hm => hf.plain m (List.mem_cons_of_mem _ hm), hf.apart.tail⟩
    have hplace : place l n = n :: l := by
      by_cases hk : n.kind = .text
      · -- a text node, plain, after no text: a new text node
        have hplain := hf.plain n List.mem_cons_self hk
        cases l with
        | nil => simp [place, hk, joinText]; exact hplain.symm
        | cons x l =>
          have hx : x.kind ≠ .text := fun hx => hl x rfl n rfl ⟨hx, hk⟩
          simp [place, hk, joinText, hx]
          exact hplain.symm
      · simp [place, hk]
    rw [List.foldl_cons, hplace, ih hf' (n :: l) ?_]
    · simp
    · intro x hx y hy
      simp only [List.head?_cons, Option.mem_def, Option.some.injEq] at hx
      subst hx
      cases f with
      | nil => simp at hy
      | cons m f =>
        simp only [List.head?_cons, Option.mem_def, Option.some.injEq] at hy
        subst hy
        exact (List.isChain_cons_cons.1 hf.apart).1

namespace Sink

/-- The sink with `g` applied to the children of the innermost open element (the last one first),
or to the finished top-level nodes when none is open. -/
def mapLevel (s : Sink) (g : List RawNode → List RawNode) : Sink :=
  match s.opened with
  | [] => { s with roots := g s.roots }
  | f :: fs => { s with opened := { f with kids := g f.kids } :: fs }

theorem mapLevel_id (s : Sink) : s.mapLevel id = s := by
  obtain ⟨roots, opened⟩ := s
  cases opened <;> rfl

theorem mapLevel_mapLevel (s : Sink) (g h : List RawNode → List RawNode) :
    (s.mapLevel g).mapLevel h = s.mapLevel (h ∘ g) := by
  obtain ⟨roots, opened⟩ := s
  cases opened <;> rfl

/-- The names of the open elements, the innermost first. -/
def openNames (s : Sink) : List String := s.opened.map (·.node.name)

@[simp] theorem mapLevel_openNames (s : Sink) (g : List RawNode → List RawNode) :
    (s.mapLevel g).openNames = s.openNames := by
  obtain ⟨roots, opened⟩ := s
  cases opened <;> rfl

@[simp] theorem mapLevel_frame (roots : List RawNode) (node : RawNode) (kids : List RawNode) (fs : List Frame)
    (g : List RawNode → List RawNode) :
    (⟨roots, ⟨node, kids⟩ :: fs⟩ : Sink).mapLevel g = ⟨roots, ⟨node, g kids⟩ :: fs⟩ := rfl

theorem pushText_eq (s : Sink) (t : String) : s.pushText t = s.mapLevel (joinText t) := by
  obtain ⟨roots, opened⟩ := s
  cases opened with
  | nil => cases roots <;> rfl
  | cons f fs =>
    obtain ⟨node, kids⟩ := f
    cases kids <;> rfl

theorem push_eq (s : Sink) (n : RawNode) : s.push n = s.mapLevel (n :: ·) := by
  obtain ⟨roots, opened⟩ := s
  cases opened <;> rfl

theorem applyAll_append (s : Sink) (ps qs : List Piece) :
    s.applyAll (ps ++ qs) = (s.applyAll ps).bind (applyAll · qs) := by
  induction ps generalizing s with
  | nil => rfl
  | cons p ps ih =>
    simp only [List.cons_append, applyAll]
    cases s.apply p with
    | error f => rfl
    | ok s' => exact ih s'

end Sink

/-- Applying the pieces that spell a forest places its nodes after the current siblings, and leaves
the open elements as they were. By induction on the spelling: a text piece joins text, a leaf is
placed, and an element opens, gets its children placed in it, and is closed into its place. -/
theorem Spelled.applyAll {f : List RawNode} {ps : List Piece} (h : Spelled f ps) :
    ∀ s : Sink, s.applyAll ps = .ok (s.mapLevel fun l => f.foldl place l) := by
  induction h with
  | nil =>
    intro s
    exact congrArg Except.ok (Sink.mapLevel_id s).symm
  | @text f ps t _ _ ih =>
    intro s
    simp only [Sink.applyAll, Sink.apply, Except.bind, ih, Sink.pushText_eq, Sink.mapLevel_mapLevel]
    rfl
  | @textMore f ps t u _ ih =>
    intro s
    simp only [Sink.applyAll, Sink.apply, Except.bind, ih, Sink.pushText_eq, Sink.mapLevel_mapLevel]
    congr 2
    funext l
    simp [place, RawNode.text, joinText_joinText]
  | @leaf f ps n hn _ ih =>
    intro s
    simp only [Sink.applyAll, Sink.apply, Except.bind, ih, Sink.push_eq, Sink.mapLevel_mapLevel]
    congr 2
    funext l
    simp [place, hn]
  | @element kids f inner ps n hn hkids _ ihi ih =>
    intro s
    -- the children, placed in the new element, stand as they are
    have hplaced : kids.foldl place [] = kids.reverse := by
      simpa using foldl_place hkids.textsJoined [] (by simp)
    rw [Sink.applyAll_append]
    simp only [Sink.applyAll, Sink.apply, Except.bind, ihi, Sink.mapLevel_frame, beq_self_eq_true, if_true,
      Frame.close, hplaced, List.reverse_reverse]
    -- the closed element takes its place after the siblings it was opened after
    rw [show ({ roots := s.roots, opened := s.opened } : Sink) = s from rfl, Sink.push_eq, ih, Sink.mapLevel_mapLevel]
    congr 2
    funext l
    simp [place, hn]

/-! ## The open elements -/

/-- The elements left open, the innermost first, by pieces that begin a well-bracketed sequence:
well-bracketed runs, each but the first after the opening of one of these elements. -/
inductive OpenAfter : List Piece → List String → Prop
  | balanced {ps : List Piece} : Balanced ps → OpenAfter ps []
  | opened {ps qs : List Piece} {st : List String} (n : RawNode) (h : n.kind ≠ .text) :
      OpenAfter ps st → Balanced qs → OpenAfter (ps ++ .opening n h :: qs) (n.name :: st)

theorem OpenAfter.append_balanced {ps qs : List Piece} {st : List String} (h : OpenAfter ps st) (hq : Balanced qs) :
    OpenAfter (ps ++ qs) st := by
  cases h with
  | balanced hp => exact .balanced (hp.append hq)
  | opened n hn hps hqs => simpa using OpenAfter.opened n hn hps (hqs.append hq)

theorem OpenAfter.balanced_of_nil {ps : List Piece} (h : OpenAfter ps []) : Balanced ps := by
  cases h with
  | balanced hp => exact hp

/-- The fault of closing `b` where the elements `st` are open: none when the innermost is `b`. -/
def closingFault (st : List String) (b : String) : Option Fault :=
  match st with
  | [] => some (.unmatched b)
  | a :: _ => if a = b then none else some (.mismatched a b)

theorem Sink.apply_eq_error (s : Sink) (p : Piece) (e : Fault) :
    s.apply p = .error e ↔ ∃ b, p = .closing b ∧ closingFault s.openNames b = some e := by
  cases p with
  | closing b =>
    obtain ⟨roots, opened⟩ := s
    cases opened with
    | nil => simp [apply, closingFault, openNames]
    | cons f fs =>
      by_cases hb : f.node.name = b <;> simp [apply, closingFault, openNames, hb]
  | _ => simp [apply]

theorem OpenAfter.apply {ps : List Piece} {s s' : Sink} {p : Piece} (h : OpenAfter ps s.openNames)
    (hs : s.apply p = .ok s') : OpenAfter (ps ++ [p]) s'.openNames := by
  cases p with
  | text t =>
    cases hs
    rw [Sink.pushText_eq, Sink.mapLevel_openNames]
    exact h.append_balanced (.text t .nil)
  | leaf n hn =>
    cases hs
    rw [Sink.push_eq, Sink.mapLevel_openNames]
    exact h.append_balanced (.leaf n hn .nil)
  | opening n hn =>
    cases hs
    exact .opened n hn h .nil
  | closing b =>
    -- the innermost open element is `b`, opened after pieces that leave the rest open
    obtain ⟨roots, opened⟩ := s
    cases opened with
    | nil => simp [Sink.apply] at hs
    | cons f fs =>
      simp only [Sink.apply] at hs
      split_ifs at hs with hb
      cases hs
      have hname : f.node.name = b := by simpa using hb
      rw [Sink.openNames, List.map_cons, hname] at h
      cases h with
      | opened n hn hps hqs =>
        rw [Sink.push_eq, Sink.mapLevel_openNames]
        simpa [Sink.openNames] using hps.append_balanced (Balanced.element n hn hqs .nil)

theorem OpenAfter.applyAll {ps qs : List Piece} {s s' : Sink} (h : OpenAfter ps s.openNames)
    (hs : s.applyAll qs = .ok s') : OpenAfter (ps ++ qs) s'.openNames := by
  induction qs generalizing ps s with
  | nil =>
    cases hs
    simpa using h
  | cons p qs ih =>
    simp only [Sink.applyAll] at hs
    cases hp : s.apply p with
    | error e => simp [hp, Except.bind] at hs
    | ok s₁ =>
      rw [hp] at hs
      simpa using ih (h.apply hp) hs

/-- Pieces that begin a well-bracketed sequence apply from the start, leaving their elements open. -/
theorem OpenAfter.reached {ps : List Piece} {st : List String} (h : OpenAfter ps st) :
    ∃ s, Sink.empty.applyAll ps = .ok s ∧ s.openNames = st := by
  induction h with
  | balanced hp =>
    obtain ⟨f, hf⟩ := hp.spelled
    exact ⟨_, hf.applyAll Sink.empty, by rw [Sink.mapLevel_openNames]; rfl⟩
  | @opened ps qs st n hn _ hq ih =>
    obtain ⟨s, hs, hnames⟩ := ih
    obtain ⟨f, hf⟩ := hq.spelled
    refine ⟨Sink.mapLevel { s with opened := ⟨n, []⟩ :: s.opened } fun l => f.foldl place l, ?_, ?_⟩
    · rw [Sink.applyAll_append, hs]
      exact hf.applyAll { s with opened := ⟨n, []⟩ :: s.opened }
    · rw [Sink.mapLevel_openNames]
      simp [← hnames, Sink.openNames]

/-! ## Feeding events is applying their pieces -/

theorem Event.pieces_cons_eq_ok {ev : Event} {evs : List Event} {ps : List Piece} :
    Event.pieces (ev :: evs) = .ok ps ↔
      ∃ p? qs, ev.piece? = .ok p? ∧ Event.pieces evs = .ok qs ∧ ps = p?.toList ++ qs := by
  simp only [Event.pieces]
  cases ev.piece? with
  | error f => simp [Except.bind]
  | ok p? =>
    cases Event.pieces evs with
    | error f => simp [Except.bind, Except.map]
    | ok qs => simp [Except.bind, Except.map, eq_comm]

namespace Sink

theorem feed_eq_applyAll (s : Sink) {ev : Event} {p? : Option Piece} (h : ev.piece? = .ok p?) :
    s.feed ev = s.applyAll p?.toList := by
  rw [feed_eq, h]
  cases p? with
  | none => rfl
  | some p => simp only [Except.bind, Option.toList_some, applyAll]; cases s.apply p <;> rfl

theorem piece?_of_feed_eq_ok {s s' : Sink} {ev : Event} (h : s.feed ev = .ok s') :
    ∃ p?, ev.piece? = .ok p? := by
  rw [feed_eq] at h
  cases hp : ev.piece? with
  | error f => simp [hp, Except.bind] at h
  | ok p? => exact ⟨p?, rfl⟩

theorem feedAll_append (s : Sink) (pre post : List Event) :
    s.feedAll (pre ++ post) = (s.feedAll pre).bind (feedAll · post) := by
  induction pre generalizing s with
  | nil => rfl
  | cons ev pre ih =>
    simp only [List.cons_append, feedAll]
    cases s.feed ev with
    | error f => rfl
    | ok s' => exact ih s'

theorem feedAll_of_pieces {evs : List Event} {ps : List Piece} (h : Event.pieces evs = .ok ps) (s : Sink) :
    s.feedAll evs = s.applyAll ps := by
  induction evs generalizing ps s with
  | nil =>
    cases h
    rfl
  | cons ev evs ih =>
    obtain ⟨p?, qs, hp, hqs, rfl⟩ := Event.pieces_cons_eq_ok.1 h
    simp only [feedAll, feed_eq_applyAll s hp, applyAll_append]
    cases s.applyAll p?.toList with
    | error f => rfl
    | ok s' => exact ih hqs s'

theorem pieces_of_feedAll_eq_ok {s s' : Sink} {evs : List Event} (h : s.feedAll evs = .ok s') :
    ∃ ps, Event.pieces evs = .ok ps := by
  induction evs generalizing s with
  | nil => exact ⟨[], rfl⟩
  | cons ev evs ih =>
    simp only [feedAll] at h
    cases hf : s.feed ev with
    | error f => simp [hf, Except.bind] at h
    | ok s₁ =>
      rw [hf] at h
      obtain ⟨p?, hp⟩ := piece?_of_feed_eq_ok hf
      obtain ⟨qs, hqs⟩ := ih h
      exact ⟨p?.toList ++ qs, Event.pieces_cons_eq_ok.2 ⟨p?, qs, hp, hqs, rfl⟩⟩

/-- Feeding fails at one event, after the events before it have decoded and applied. -/
theorem feedAll_eq_error {s : Sink} {evs : List Event} {e : Fault} (h : s.feedAll evs = .error e) :
    ∃ pre ev post ps s₁, evs = pre ++ ev :: post ∧ Event.pieces pre = .ok ps ∧ s.applyAll ps = .ok s₁ ∧
      s₁.feed ev = .error e := by
  induction evs generalizing s with
  | nil => cases h
  | cons ev evs ih =>
    simp only [feedAll] at h
    cases hf : s.feed ev with
    | error f =>
      rw [hf] at h
      cases h
      exact ⟨[], ev, evs, [], s, rfl, rfl, rfl, hf⟩
    | ok s₂ =>
      rw [hf] at h
      obtain ⟨pre, ev', post, ps, s₁, rfl, hpre, hs₁, hev'⟩ := ih h
      obtain ⟨p?, hp⟩ := piece?_of_feed_eq_ok hf
      refine ⟨ev :: pre, ev', post, p?.toList ++ ps, s₁, rfl, Event.pieces_cons_eq_ok.2 ⟨p?, ps, hp, hpre, rfl⟩, ?_, hev'⟩
      rw [applyAll_append, ← feed_eq_applyAll s hp, hf]
      exact hs₁

end Sink

/-! ## Where reading fails -/

/-- The fault an event raises where the elements `st` are open: the fault of decoding it, or of the
closing it decodes to. -/
def Event.violation (st : List String) (ev : Event) : Option Fault :=
  match ev.piece? with
  | .error f => some f
  | .ok (some (.closing b)) => closingFault st b
  | .ok _ => none

/-- An event fails exactly with the fault it raises where the open elements are those of the sink. -/
theorem Sink.feed_eq_error (s : Sink) (ev : Event) (e : Fault) :
    s.feed ev = .error e ↔ ev.violation s.openNames = some e := by
  rw [feed_eq, Event.violation]
  cases ev.piece? with
  | error f => simp [Except.bind]
  | ok p? =>
    cases p? with
    | none => simp [Except.bind]
    | some p =>
      simp only [Except.bind]
      rw [Sink.apply_eq_error]
      cases p <;> simp

/-- The faults reading a stream of events ends with: the first event that raises one where the
pieces before it leave their elements open, else the reading fault that ends the stream, else the
innermost element left open at its end. -/
inductive Fails : List Event → Option Fault → Fault → Prop
  | event {pre post : List Event} {ev : Event} {ps : List Piece} {st : List String} {stop : Option Fault}
      {e : Fault} :
      Event.pieces pre = .ok ps → OpenAfter ps st → ev.violation st = some e → Fails (pre ++ ev :: post) stop e
  | stop {evs : List Event} {ps : List Piece} {st : List String} {e : Fault} :
      Event.pieces evs = .ok ps → OpenAfter ps st → Fails evs (some e) e
  | unclosed {evs : List Event} {ps : List Piece} {a : String} {st : List String} :
      Event.pieces evs = .ok ps → OpenAfter ps (a :: st) → Fails evs none (.unclosed a)

/-! ## Reading a stream of events -/

theorem Sink.openAfter_of_applyAll {ps : List Piece} {s : Sink} (h : Sink.empty.applyAll ps = .ok s) :
    OpenAfter ps s.openNames := by
  simpa using (OpenAfter.balanced Balanced.nil).applyAll (s := Sink.empty) h

theorem Sink.openAfter_of_feedAll {evs : List Event} {s : Sink} (h : Sink.empty.feedAll evs = .ok s) :
    ∃ ps, Event.pieces evs = .ok ps ∧ Sink.empty.applyAll ps = .ok s ∧ OpenAfter ps s.openNames := by
  obtain ⟨ps, hps⟩ := pieces_of_feedAll_eq_ok h
  rw [feedAll_of_pieces hps] at h
  exact ⟨ps, hps, h, Sink.openAfter_of_applyAll h⟩

theorem Spelled.applyAll_empty {f : List RawNode} {ps : List Piece} (h : Spelled f ps) :
    Sink.empty.applyAll ps = .ok ⟨f.reverse, []⟩ := by
  rw [h.applyAll]
  simp [Sink.mapLevel, Sink.empty, foldl_place h.textsJoined [] (by simp)]

/-- The stack machine accepts a stream exactly when it ends at the end of the input and its pieces
spell the forest it returns. -/
theorem Sink.run_eq_ok_iff (evs : List Event) (stop : Option Fault) (f : List RawNode) :
    Sink.empty.run evs stop = .ok f ↔ stop = none ∧ ∃ ps, Event.pieces evs = .ok ps ∧ Spelled f ps := by
  constructor
  · intro h
    simp only [run] at h
    cases hs : Sink.empty.feedAll evs with
    | error e => simp [hs, Except.bind] at h
    | ok s =>
      rw [hs] at h
      cases stop with
      | some e => cases h
      | none =>
        obtain ⟨roots, opened⟩ := s
        cases opened with
        | cons fr fs => cases h
        | nil =>
          -- nothing is left open, so the pieces are well-bracketed and spell some forest
          cases h
          obtain ⟨ps, hps, happly, hopen⟩ := Sink.openAfter_of_feedAll hs
          obtain ⟨g, hg⟩ := hopen.balanced_of_nil.spelled
          rw [hg.applyAll_empty] at happly
          cases happly
          exact ⟨rfl, ps, hps, by simpa using hg⟩
  · rintro ⟨rfl, ps, hps, hf⟩
    simp [run, feedAll_of_pieces hps, hf.applyAll_empty, Except.bind, finish]

/-- The stack machine accepts a stream exactly when it ends at the end of the input and its pieces
are well-bracketed. -/
theorem Sink.run_ok_iff (evs : List Event) (stop : Option Fault) :
    (∃ f, Sink.empty.run evs stop = .ok f) ↔ stop = none ∧ ∃ ps, Event.pieces evs = .ok ps ∧ Balanced ps := by
  simp only [Sink.run_eq_ok_iff]
  constructor
  · rintro ⟨f, rfl, ps, hps, hf⟩
    exact ⟨rfl, ps, hps, hf.balanced⟩
  · rintro ⟨rfl, ps, hps, hb⟩
    obtain ⟨f, hf⟩ := hb.spelled
    exact ⟨f, rfl, ps, hps, hf⟩

/-- The stack machine fails on a stream exactly with the faults the stream ends with. -/
theorem Sink.run_eq_error_iff (evs : List Event) (stop : Option Fault) (e : Fault) :
    Sink.empty.run evs stop = .error e ↔ Fails evs stop e := by
  constructor
  · intro h
    simp only [run] at h
    cases hs : Sink.empty.feedAll evs with
    | error e' =>
      rw [hs] at h
      cases h
      obtain ⟨pre, ev, post, ps, s₁, rfl, hpre, hs₁, hev⟩ := feedAll_eq_error hs
      exact .event hpre (Sink.openAfter_of_applyAll hs₁) ((Sink.feed_eq_error s₁ ev e).1 hev)
    | ok s =>
      rw [hs] at h
      obtain ⟨ps, hps, -, hopen⟩ := Sink.openAfter_of_feedAll hs
      cases stop with
      | some e' =>
        cases h
        exact .stop hps hopen
      | none =>
        obtain ⟨roots, opened⟩ := s
        cases opened with
        | nil => cases h
        | cons fr fs =>
          cases h
          exact .unclosed hps hopen
  · intro h
    cases h with
    | @event pre post ev ps st stop e hpre hopen hev =>
      obtain ⟨s₁, hs₁, rfl⟩ := hopen.reached
      have hfeed := (Sink.feed_eq_error s₁ ev e).2 hev
      simp [run, feedAll_append, feedAll_of_pieces hpre, hs₁, feedAll, hfeed, Except.bind]
    | @stop evs ps st e hps hopen =>
      obtain ⟨s, hs, -⟩ := hopen.reached
      simp [run, feedAll_of_pieces hps, hs, Except.bind]
    | @unclosed evs ps a st hps hopen =>
      obtain ⟨⟨roots, opened⟩, hs, hnames⟩ := hopen.reached
      cases opened with
      | nil => cases hnames
      | cons fr fs =>
        simp only [openNames, List.map_cons, List.cons.injEq] at hnames
        simp [run, feedAll_of_pieces hps, hs, Except.bind, finish, hnames.1]

/-- The stack machine on any stream of events, ended by the end of the input (`stop = none`) or by
the reader's fault: it succeeds exactly when the stream ends at the end of the input and its pieces
are well-bracketed, it then returns the forest the pieces spell, and otherwise it fails with the
first fault of the stream. -/
theorem Sink.run_spelled_or_fails (evs : List Event) (stop : Option Fault) :
    ((∃ f, Sink.empty.run evs stop = .ok f) ↔
        stop = none ∧ ∃ ps, Event.pieces evs = .ok ps ∧ Balanced ps) ∧
      (∀ f, Sink.empty.run evs stop = .ok f ↔
        stop = none ∧ ∃ ps, Event.pieces evs = .ok ps ∧ Spelled f ps) ∧
      ∀ e, Sink.empty.run evs stop = .error e ↔ Fails evs stop e :=
  ⟨Sink.run_ok_iff evs stop, Sink.run_eq_ok_iff evs stop, Sink.run_eq_error_iff evs stop⟩

/-- Reading markup from the start, whatever events the reader yields: it succeeds exactly when the
stream ends at the end of the input and its pieces are well-bracketed, it then returns the forest the
pieces spell, and otherwise it fails with the first fault of the stream. -/
theorem readEvents_spelled_or_fails (input : List Char) :
    ((∃ f, readEvents input Sink.empty = .ok f) ↔ (Event.stream input).2 = none ∧
        ∃ ps, Event.pieces (Event.stream input).1 = .ok ps ∧ Balanced ps) ∧
      (∀ f, readEvents input Sink.empty = .ok f ↔ (Event.stream input).2 = none ∧
        ∃ ps, Event.pieces (Event.stream input).1 = .ok ps ∧ Spelled f ps) ∧
      ∀ e, readEvents input Sink.empty = .error e ↔ Fails (Event.stream input).1 (Event.stream input).2 e := by
  rw [readEvents_eq_run]
  exact ⟨Sink.run_ok_iff _ _, Sink.run_eq_ok_iff _ _, Sink.run_eq_error_iff _ _⟩

end Stencil.Markup
