/-
Fresh keys. Building keys every element it makes from the counter, so the keys of built nodes, at
every depth, are exactly the keys the build minted, each once (`Builder.buildNodes_keys_fresh`):
no two elements of a build share a key, and no key minted before the build appears in it. A tag
reached through tags alone gets the next key, which its element keeps through an expansion; a copy
of a component's default children, made only when the caller builds no children, gets a fresh key
for every element (`rekeyed_keys`); the children of a text or of a dropped node are never visited,
and nothing else mints (`Builder.keyCount`).

Keys in document order. Building keys a tag before its children, but a copy keys each element
after its children (`rekeyed_keys_postorder`), so read in pre-order the keys of a build are the
keys minted one after another, and strictly increase, exactly when no copied element holds an
element: whenever every registered component's default children are shallow
(`Builder.buildNodes_keys_increasing`).
-/
import Stencil.Proofs.Build

namespace Stencil

open Markup

/-! ## The keys of nodes -/

mutual
/-- The keys of the elements of nodes, at every depth, each element's before its children's. -/
def elementKeys : List Node → List Nat
  | [] => []
  | n :: ns => elementKeysNode n ++ elementKeys ns

/-- The keys of the elements of one node. -/
def elementKeysNode : Node → List Nat
  | .text _ => []
  | .element ⟨_, _, _, children, key⟩ => key :: elementKeys children
end

@[simp] theorem elementKeys_nil : elementKeys [] = [] := rfl

@[simp] theorem elementKeys_cons (n : Node) (ns : List Node) :
    elementKeys (n :: ns) = elementKeysNode n ++ elementKeys ns := rfl

@[simp] theorem elementKeysNode_text (s : String) : elementKeysNode (.text s) = [] := rfl

@[simp] theorem elementKeysNode_element (name : String) (kind : Kind) (attrs : Attributes) (children : List Node)
    (key : Nat) : elementKeysNode (.element ⟨name, kind, attrs, children, key⟩) = key :: elementKeys children :=
  rfl

mutual
/-- The keys of the elements of nodes, each element's after its children's. -/
def postorderKeys : List Node → List Nat
  | [] => []
  | n :: ns => postorderKeysNode n ++ postorderKeys ns

/-- The keys of the elements of one node, its own last. -/
def postorderKeysNode : Node → List Nat
  | .text _ => []
  | .element ⟨_, _, _, children, key⟩ => postorderKeys children ++ [key]
end

theorem perm_range'_append {l₁ l₂ : List Nat} {k a b : Nat} (h₁ : l₁.Perm (List.range' k a))
    (h₂ : l₂.Perm (List.range' (k + a) b)) : (l₁ ++ l₂).Perm (List.range' k (a + b)) := by
  rw [← List.range'_append_1]
  exact h₁.append h₂

/-! ## Copies of default children -/

theorem rekeyed_cons_run (n : Node) (ns : List Node) (k : Nat) :
    (rekeyed (n :: ns)).run k =
      (((rekeyedNode n).run k).1 :: ((rekeyed ns).run ((rekeyedNode n).run k).2).1,
        ((rekeyed ns).run ((rekeyedNode n).run k).2).2) := by
  simp only [rekeyed, StateT.run_bind, StateT.run_pure]
  rfl

theorem rekeyedNode_element_run (name : String) (kind : Kind) (attrs : Attributes) (children : List Node)
    (key k : Nat) :
    (rekeyedNode (.element ⟨name, kind, attrs, children, key⟩)).run k =
      (.element ⟨name, kind, attrs, ((rekeyed children).run k).1, ((rekeyed children).run k).2⟩,
        ((rekeyed children).run k).2 + 1) := by
  simp only [rekeyedNode, StateT.run_bind, StateT.run_pure]
  rfl

/-- A copy gets a fresh key for every element: its keys are exactly the keys minted, one per
element of the nodes copied. -/
theorem rekeyed_keys :
    ∀ (ns : List Node) (k : Nat), ((rekeyed ns).run k).2 = k + (elementKeys ns).length ∧
      (elementKeys ((rekeyed ns).run k).1).Perm (List.range' k (elementKeys ns).length) := by
  apply rekeyed.induct
    (fun ns => ∀ k, ((rekeyed ns).run k).2 = k + (elementKeys ns).length ∧
      (elementKeys ((rekeyed ns).run k).1).Perm (List.range' k (elementKeys ns).length))
    (fun n => ∀ k, ((rekeyedNode n).run k).2 = k + (elementKeysNode n).length ∧
      (elementKeysNode ((rekeyedNode n).run k).1).Perm (List.range' k (elementKeysNode n).length))
  · intro s k
    exact ⟨rfl, List.Perm.nil⟩
  · -- an element: its children first, then its own key, the last one minted
    intro name kind attrs children key ih k
    obtain ⟨hk, hperm⟩ := ih k
    rw [rekeyedNode_element_run, hk]
    refine ⟨by simp; omega, ?_⟩
    simp only [elementKeysNode_element, List.length_cons]
    exact (List.perm_append_singleton _ _).symm.trans (perm_range'_append hperm (by simp))
  · intro k
    exact ⟨rfl, List.Perm.nil⟩
  · intro n ns ihn ihns k
    obtain ⟨hk₁, hperm₁⟩ := ihn k
    obtain ⟨hk₂, hperm₂⟩ := ihns ((rekeyedNode n).run k).2
    rw [rekeyed_cons_run, hk₂, hk₁]
    refine ⟨by simp; omega, ?_⟩
    simp only [elementKeys_cons, List.length_append]
    exact perm_range'_append hperm₁ (hk₁ ▸ hperm₂)

@[simp] theorem rekeyed_nil_run (k : Nat) : (rekeyed []).run k = ([], k) := rfl

theorem rekeyedNode_state (n : Node) (k : Nat) : ((rekeyedNode n).run k).2 = k + (elementKeysNode n).length := by
  have := (rekeyed_keys [n] k).1
  rw [rekeyed_cons_run] at this
  simpa using this

/-- A copy mints its keys in post-order: read with each element after its children, they are the
keys from the counter on, one after another. -/
theorem rekeyed_keys_postorder :
    ∀ (ns : List Node) (k : Nat), postorderKeys ((rekeyed ns).run k).1 = List.range' k (elementKeys ns).length := by
  apply rekeyed.induct
    (fun ns => ∀ k, postorderKeys ((rekeyed ns).run k).1 = List.range' k (elementKeys ns).length)
    (fun n => ∀ k, postorderKeysNode ((rekeyedNode n).run k).1 = List.range' k (elementKeysNode n).length)
  · intro s k
    rfl
  · intro name kind attrs children key ih k
    rw [rekeyedNode_element_run, postorderKeysNode, ih, (rekeyed_keys children k).1, elementKeysNode_element,
      List.length_cons, List.range'_concat, Nat.one_mul]
  · intro k
    rfl
  · intro n ns ihn ihns k
    rw [rekeyed_cons_run, postorderKeys, ihn, ihns, rekeyedNode_state, elementKeys_cons, List.length_append,
      List.range'_append_1]

/-- Nodes none of whose elements holds an element. -/
def Shallow (ns : List Node) : Prop := ∀ e, Node.element e ∈ ns → elementKeys e.children = []

theorem rekeyedNode_keys_shallow (n : Node) (h : ∀ e, n = .element e → elementKeys e.children = []) (k : Nat) :
    elementKeysNode ((rekeyedNode n).run k).1 = List.range' k (elementKeysNode n).length := by
  cases n with
  | text s => rfl
  | element e =>
    obtain ⟨name, kind, attrs, children, key⟩ := e
    -- the children hold no element, so copying them mints nothing and the element takes the counter
    have hnone : elementKeys children = [] := h _ rfl
    obtain ⟨hk, hperm⟩ := rekeyed_keys children k
    rw [hnone, List.length_nil, Nat.add_zero] at hk
    rw [hnone, List.length_nil, List.range'_zero, List.perm_nil] at hperm
    rw [rekeyedNode_element_run, elementKeysNode_element, elementKeysNode_element, hk, hperm, hnone]
    rfl

theorem rekeyed_keys_shallow :
    ∀ (ns : List Node), Shallow ns → ∀ k, elementKeys ((rekeyed ns).run k).1 = List.range' k (elementKeys ns).length
  | [], _, _ => rfl
  | n :: ns, h, k => by
    have hfirst := rekeyedNode_keys_shallow n (fun e he => h e (he ▸ List.mem_cons_self)) k
    have hrest := rekeyed_keys_shallow ns (fun e he => h e (List.mem_cons_of_mem _ he))
    rw [rekeyed_cons_run, elementKeys_cons, hfirst, hrest, rekeyedNode_state, elementKeys_cons, List.length_append,
      List.range'_append_1]

/-! ## How many keys a build mints -/

/-- Whether a raw node builds into nothing where it stands: a dropped kind, or a text that is empty
or stands directly in a table container. -/
def Markup.RawNode.buildsNothing (parent : Option String) (r : RawNode) : Bool :=
  match r.kind with
  | .tag => false
  | .text => r.data.isEmpty || parent.any tableContainers.contains
  | _ => true

mutual
/-- How many keys building raw nodes mints: one for every tag reached through tags alone, and one
for every element of the default children copied into an expansion whose caller builds no
children. -/
def Builder.keyCount (b : Builder) : List RawNode → Nat
  | [] => 0
  | r :: rs => b.keyCountNode r + b.keyCount rs

/-- How many keys building one raw node mints. -/
def Builder.keyCountNode (b : Builder) : RawNode → Nat
  | ⟨.tag, name, _, _, children⟩ =>
    1 + b.keyCount children +
      match b.registry.get? name with
      | some c => if children.all (·.buildsNothing (some name)) then (elementKeys c.children).length else 0
      | none => 0
  | _ => 0
end

namespace Builder

variable (b : Builder)

theorem keyCountNode_tag (name data : String) (attrs : List (String × String)) (children : List RawNode) :
    b.keyCountNode ⟨.tag, name, data, attrs, children⟩ =
      1 + b.keyCount children +
        match b.registry.get? name with
        | some c => if children.all (·.buildsNothing (some name)) then (elementKeys c.children).length else 0
        | none => 0 := by
  rw [keyCountNode]

theorem keyCountNode_nontag {kind : RawKind} (hk : kind ≠ .tag) (name data : String)
    (attrs : List (String × String)) (children : List RawNode) :
    b.keyCountNode ⟨kind, name, data, attrs, children⟩ = 0 := by
  cases kind <;> first | exact absurd rfl hk | rfl

theorem buildNode_eq_none_iff (parent : Option String) (r : RawNode) (k : Nat) :
    ((b.buildNode parent r).run k).1 = none ↔ r.buildsNothing parent = true := by
  obtain ⟨kind, name, data, attrs, children⟩ := r
  cases kind with
  | tag =>
    cases hc : b.registry.get? name with
    | none => simp [buildNode_tag_plain b parent name data attrs children k hc, RawNode.buildsNothing]
    | some c => simp [buildNode_tag_expand b parent name data attrs children k hc, RawNode.buildsNothing]
  | text =>
    rw [buildNode_text]
    simp only [RawNode.buildsNothing, Bool.or_eq_true]
    split_ifs with h1 h2 <;> simp_all
  | _ => simp [RawNode.buildsNothing, buildNode_other b parent name data attrs children k]

theorem buildNodes_eq_nil_iff (parent : Option String) (rs : List RawNode) (k : Nat) :
    ((b.buildNodes parent rs).run k).1 = [] ↔ rs.all (·.buildsNothing parent) = true := by
  induction rs generalizing k with
  | nil => exact ⟨fun _ => rfl, fun _ => rfl⟩
  | cons r rs ih =>
    rw [buildNodes_cons_run]
    -- the first node's result, if any, stands before the rest's
    split
    · next n hn =>
      have : r.buildsNothing parent = false := by
        rw [← Bool.not_eq_true, ← buildNode_eq_none_iff b parent r k, hn]
        simp
      simp [this]
    · next hn =>
      rw [ih, List.all_cons, (buildNode_eq_none_iff b parent r k).1 hn, Bool.true_and]

theorem buildNodes_isEmpty (parent : Option String) (rs : List RawNode) (k : Nat) :
    ((b.buildNodes parent rs).run k).1.isEmpty = rs.all (·.buildsNothing parent) :=
  Bool.eq_iff_iff.2 (List.isEmpty_iff.trans (b.buildNodes_eq_nil_iff parent rs k))

theorem elementKeys_buildNode_nontag (parent : Option String) {kind : RawKind} (hkt : kind ≠ .tag)
    (name data : String) (attrs : List (String × String)) (children : List RawNode) (k : Nat) :
    elementKeys ((b.buildNode parent ⟨kind, name, data, attrs, children⟩).run k).1.toList = [] := by
  cases hn : ((b.buildNode parent ⟨kind, name, data, attrs, children⟩).run k).1 with
  | none => rfl
  | some n =>
    have hnot : ((b.buildNode parent ⟨kind, name, data, attrs, children⟩).run k).1 ≠ none := by
      rw [hn]; simp
    cases kind with
    | tag => exact absurd rfl hkt
    | text =>
      rw [buildNode_text] at hn
      split_ifs at hn
      cases hn
      rfl
    | _ => exact absurd (buildNode_other b parent name data attrs children k (by simp) (by simp)) hnot

/-- Building raw nodes mints `keyCount` keys, and the keys of the built nodes are exactly those,
each once. By the builder's own induction: a tag takes the next key and its children the keys
after it; an expansion keeps the tag's key and adds a copy of the defaults, keyed afresh, only
when the children built into nothing and so minted nothing; a text or a dropped node mints
nothing. -/
theorem buildNodes_keys :
    ∀ parent rs k, ((b.buildNodes parent rs).run k).2 = k + b.keyCount rs ∧
      (elementKeys ((b.buildNodes parent rs).run k).1).Perm (List.range' k (b.keyCount rs)) := by
  apply buildNodes.induct
    (fun parent rs => ∀ k, ((b.buildNodes parent rs).run k).2 = k + b.keyCount rs ∧
      (elementKeys ((b.buildNodes parent rs).run k).1).Perm (List.range' k (b.keyCount rs)))
    (fun parent r => ∀ k, ((b.buildNode parent r).run k).2 = k + b.keyCountNode r ∧
      (elementKeys ((b.buildNode parent r).run k).1.toList).Perm (List.range' k (b.keyCountNode r)))
  · -- one raw node
    intro parent kind name data attrs children ih k
    by_cases hkt : kind = .tag
    · subst hkt
      obtain ⟨hk₁, hperm₁⟩ := ih (k + 1)
      rw [keyCountNode_tag]
      cases hc : b.registry.get? name with
      | none =>
        rw [buildNode_tag_plain b parent name data attrs children k hc, hk₁]
        refine ⟨by simp; omega, ?_⟩
        simp only [Option.toList_some, elementKeys_cons, elementKeysNode_element, elementKeys_nil,
          List.append_nil, Nat.add_zero]
        rw [Nat.add_comm 1 (b.keyCount children), List.range'_succ]
        exact hperm₁.cons k
      | some c =>
        rw [buildNode_tag_expand b parent name data attrs children k hc, Component.instantiate_run]
        simp only [buildNodes_isEmpty]
        by_cases hall : children.all (·.buildsNothing (some name)) = true
        · -- no children were built, so none minted, and the defaults are copied after the tag's key
          have hnil := (buildNodes_eq_nil_iff b (some name) children (k + 1)).2 hall
          have hzero : b.keyCount children = 0 := by
            have := hperm₁.length_eq
            rw [hnil] at this
            simpa using this.symm
          obtain ⟨hk₂, hperm₂⟩ := rekeyed_keys c.children ((b.buildNodes (some name) children).run (k + 1)).2
          simp only [hall, if_true]
          rw [hk₂, hk₁, hzero]
          refine ⟨by omega, ?_⟩
          simp only [Option.toList_some, elementKeys_cons, elementKeysNode_element, elementKeys_nil,
            List.append_nil]
          rw [hk₁, hzero] at hperm₂
          rw [Nat.add_zero, Nat.add_comm 1, List.range'_succ]
          exact hperm₂.cons k
        · -- the built children stand, keyed after the tag
          simp only [hall, Bool.false_eq_true, if_false]
          rw [hk₁]
          refine ⟨by omega, ?_⟩
          simp only [Option.toList_some, elementKeys_cons, elementKeysNode_element, elementKeys_nil,
            List.append_nil, Nat.add_zero]
          rw [Nat.add_comm 1 (b.keyCount children), List.range'_succ]
          exact hperm₁.cons k
    · -- a text or a dropped node: nothing minted, no element
      rw [keyCountNode_nontag b hkt, buildNode_nontag_state b parent name data attrs children k hkt,
        elementKeys_buildNode_nontag b parent hkt]
      exact ⟨rfl, List.Perm.nil⟩
  · intro parent k
    exact ⟨rfl, List.Perm.nil⟩
  · -- a list: the first node's keys, then the rest's from where the first stopped
    intro parent r rs ihr ihrs k
    obtain ⟨hk₁, hperm₁⟩ := ihr k
    obtain ⟨hk₂, hperm₂⟩ := ihrs ((b.buildNode parent r).run k).2
    have hnodes : ((b.buildNodes parent (r :: rs)).run k).1 =
        ((b.buildNode parent r).run k).1.toList ++
          ((b.buildNodes parent rs).run ((b.buildNode parent r).run k).2).1 := by
      rw [Builder.buildNodes_cons_run]
      cases ((b.buildNode parent r).run k).1 <;> rfl
    have hcount : ((b.buildNodes parent (r :: rs)).run k).2 =
        ((b.buildNodes parent rs).run ((b.buildNode parent r).run k).2).2 := by
      simp only [buildNodes, StateT.run_bind, StateT.run_pure]
      rfl
    rw [hnodes, hcount, keyCount]
    refine ⟨by rw [hk₂, hk₁]; omega, ?_⟩
    have hsplit : elementKeys (((b.buildNode parent r).run k).1.toList ++
          ((b.buildNodes parent rs).run ((b.buildNode parent r).run k).2).1) =
        elementKeys ((b.buildNode parent r).run k).1.toList ++
          elementKeys ((b.buildNodes parent rs).run ((b.buildNode parent r).run k).2).1 := by
      cases ((b.buildNode parent r).run k).1 <;> simp
    rw [hsplit]
    exact perm_range'_append hperm₁ (hk₁ ▸ hperm₂)

/-- Building keys every element afresh. The keys of the built nodes, at every depth, are exactly
the keys the build minted, each once: `keyCount` of them from the counter on, one for every tag
reached through tags alone and one for every element of a copy of default children, so they are
pairwise distinct and none minted before the build, by an earlier build or for a component's
defaults, appears. Every raw tag builds into an element carrying the first key of its own build,
which an expansion keeps; any other raw node mints nothing, its children never built. -/
theorem buildNodes_keys_fresh (parent : Option String) (rs : List RawNode) (k : Nat) :
    ((b.buildNodes parent rs).run k).2 = k + b.keyCount rs ∧
      (elementKeys ((b.buildNodes parent rs).run k).1).Perm (List.range' k (b.keyCount rs)) ∧
      (elementKeys ((b.buildNodes parent rs).run k).1).Nodup ∧
      (∀ key ∈ elementKeys ((b.buildNodes parent rs).run k).1, k ≤ key) ∧
      (∀ name data attrs children, ∃ e,
        ((b.buildNode parent ⟨.tag, name, data, attrs, children⟩).run k).1 = some (.element e) ∧ e.key = k) ∧
      ∀ kind name data attrs children, kind ≠ .tag →
        ((b.buildNode parent ⟨kind, name, data, attrs, children⟩).run k).2 = k := by
  obtain ⟨hk, hperm⟩ := b.buildNodes_keys parent rs k
  refine ⟨hk, hperm, hperm.nodup_iff.2 List.nodup_range', fun key hkey => ?_,
    fun name data attrs children =>
      (b.buildNode_tag_element parent name data attrs children k).imp fun _ he => ⟨he.1, he.2.1⟩,
    fun kind name data attrs children hkind => b.buildNode_nontag_state parent name data attrs children k hkind⟩
  -- every key is one of those minted, from the counter on
  exact (List.mem_range'_1.1 (hperm.subset hkey)).1

/-- A script holding a tag mints no key for it. -/
theorem buildNodes_keys_fresh_script :
    (((⟨.standard, .keys, defaultDomain⟩ : Builder).buildNode none
      ⟨.script, "script", "", [], [⟨.tag, "b", "", [], []⟩]⟩).run 5).2 = 5 :=
  (buildNodes_keys_fresh ⟨.standard, .keys, defaultDomain⟩ none [] 5).2.2.2.2.2 .script "script" "" [] [⟨.tag, "b", "", [], []⟩]
    (by decide)

/-! ## Keys in document order -/

theorem buildNode_state (parent : Option String) (r : RawNode) (k : Nat) :
    ((b.buildNode parent r).run k).2 = k + b.keyCountNode r := by
  have h := (b.buildNodes_keys parent [r] k).1
  rwa [show ((b.buildNodes parent [r]).run k).2 = ((b.buildNode parent r).run k).2 from rfl, keyCount,
    keyCount, Nat.add_zero] at h

/-- When every registered component's default children are shallow, the keys of built nodes in
pre-order are the keys minted, one after another from the counter. By the builder's own induction:
a tag takes the next key and its children, or a copy of the defaults, the keys after it. -/
theorem buildNodes_keys_preorder (hshallow : ∀ name c, b.registry.get? name = some c → Shallow c.children) :
    ∀ parent rs k, elementKeys ((b.buildNodes parent rs).run k).1 = List.range' k (b.keyCount rs) := by
  apply buildNodes.induct
    (fun parent rs => ∀ k, elementKeys ((b.buildNodes parent rs).run k).1 = List.range' k (b.keyCount rs))
    (fun parent r => ∀ k, elementKeys ((b.buildNode parent r).run k).1.toList = List.range' k (b.keyCountNode r))
  · -- one raw node
    intro parent kind name data attrs children ih k
    by_cases hkt : kind = .tag
    · subst hkt
      have hk₁ := (b.buildNodes_keys (some name) children (k + 1)).1
      rw [keyCountNode_tag]
      cases hc : b.registry.get? name with
      | none =>
        rw [buildNode_tag_plain b parent name data attrs children k hc]
        simp only [Option.toList_some, elementKeys_cons, elementKeysNode_element, elementKeys_nil,
          List.append_nil, Nat.add_zero, ih (k + 1)]
        rw [Nat.add_comm 1, List.range'_succ]
      | some c =>
        rw [buildNode_tag_expand b parent name data attrs children k hc, Component.instantiate_run]
        simp only [buildNodes_isEmpty]
        by_cases hall : children.all (·.buildsNothing (some name)) = true
        · -- no children were built, so none minted, and the copy of the defaults follows the tag's key
          have hnil := (buildNodes_eq_nil_iff b (some name) children (k + 1)).2 hall
          have hzero : b.keyCount children = 0 := by
            have := ih (k + 1)
            rw [hnil, elementKeys_nil] at this
            simpa using (congrArg List.length this).symm
          simp only [hall, if_true]
          rw [hk₁, hzero, Nat.add_zero]
          simp only [Option.toList_some, elementKeys_cons, elementKeysNode_element, elementKeys_nil,
            List.append_nil, rekeyed_keys_shallow _ (hshallow name c hc)]
          rw [Nat.add_zero, Nat.add_comm 1, List.range'_succ]
        · -- the built children stand, keyed after the tag
          simp only [hall, Bool.false_eq_true, if_false, Option.toList_some, elementKeys_cons,
            elementKeysNode_element, elementKeys_nil, List.append_nil, Nat.add_zero, ih (k + 1)]
          rw [Nat.add_comm 1, List.range'_succ]
    · -- a text or a dropped node: no element
      rw [keyCountNode_nontag b hkt, elementKeys_buildNode_nontag b parent hkt]
      rfl
  · intro parent k
    rfl
  · -- a list: the first node's keys, then the rest's from where the first stopped
    intro parent r rs ihr ihrs k
    have hsplit : elementKeys ((b.buildNodes parent (r :: rs)).run k).1 =
        elementKeys ((b.buildNode parent r).run k).1.toList ++
          elementKeys ((b.buildNodes parent rs).run ((b.buildNode parent r).run k).2).1 := by
      rw [buildNodes_cons_run]
      cases ((b.buildNode parent r).run k).1 <;> simp
    rw [hsplit, ihr, ihrs, buildNode_state, keyCount, List.range'_append_1]

/-- Keys increase in document order. When no registered component's default children hold an
element inside an element, the keys of built nodes read in pre-order (an element before its
children, children left to right, copies of defaults included) are the keys the build minted, one
after another from the counter, so they strictly increase. -/
theorem buildNodes_keys_increasing (hshallow : ∀ name c, b.registry.get? name = some c → Shallow c.children)
    (parent : Option String) (rs : List RawNode) (k : Nat) :
    elementKeys ((b.buildNodes parent rs).run k).1 = List.range' k (b.keyCount rs) ∧
      (elementKeys ((b.buildNodes parent rs).run k).1).Pairwise (· < ·) := by
  rw [b.buildNodes_keys_preorder hshallow parent rs k]
  exact ⟨rfl, List.pairwise_lt_range'⟩

end Builder

/-- An alert whose defaults are an emphasis and a space, called without children, and a paragraph
holding a bold tag are keyed 1 to 4 in document order. -/
theorem alert_keys_increasing :
    (∀ name c, Registry.get? ⟨[("Alert", ⟨"Alert", .component, [],
        [.element ⟨"em", .tag, [], [.text "!"], 0⟩, .text " "]⟩)]⟩ name = some c → Shallow c.children) ∧
      elementKeys (((⟨⟨[("Alert", ⟨"Alert", .component, [],
        [.element ⟨"em", .tag, [], [.text "!"], 0⟩, .text " "]⟩)]⟩, .keys, defaultDomain⟩ : Builder).buildNodes none
          [⟨.tag, "Alert", "", [], []⟩, ⟨.tag, "p", "", [], [⟨.tag, "b", "", [], []⟩]⟩]).run 1).1 = [1, 2, 3, 4] := by
  have h : ∀ name c, Registry.get? ⟨[("Alert", ⟨"Alert", .component, [],
      [.element ⟨"em", .tag, [], [.text "!"], 0⟩, .text " "]⟩)]⟩ name = some c → Shallow c.children := by
    intro name c hc
    simp only [Registry.get?, Keyed.get?] at hc
    split_ifs at hc
    cases hc
    intro e he
    simp only [List.mem_cons, Node.element.injEq, reduceCtorEq, List.not_mem_nil, or_false] at he
    subst he
    rfl
  refine ⟨h, ?_⟩
  rw [(Builder.buildNodes_keys_increasing _ h none _ 1).1]
  rfl

end Stencil
