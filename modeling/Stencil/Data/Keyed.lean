/-
Keyed tables: association lists kept in increasing key order, without repeated keys. Maps and
attribute sets are enumerated in key order, and a later write to a key replaces the earlier one.
Main statements: a key reads back what was last written to it (`get?_insert_self`), and writing
one key leaves the others alone (`get?_insert_other`).
-/
namespace Stencil.Keyed

variable {α : Type}

/-- The entry stored under `k`, if any. -/
def get? (t : List (String × α)) (k : String) : Option α :=
  match t with
  | [] => none
  | (k', v) :: rest => if k' = k then some v else get? rest k

/-- Whether `k` has an entry. -/
def contains (t : List (String × α)) (k : String) : Bool := (get? t k).isSome

/-- Stores `v` under `k`, replacing an entry of that key and keeping the keys in order. -/
def insert (t : List (String × α)) (k : String) (v : α) : List (String × α) :=
  match t with
  | [] => [(k, v)]
  | (k', v') :: rest =>
    if k < k' then (k, v) :: (k', v') :: rest
    else if k = k' then (k, v) :: rest
    else (k', v') :: insert rest k v

/-- Drops the entry of `k`. -/
def erase (t : List (String × α)) (k : String) : List (String × α) :=
  t.filter (fun e => e.1 != k)

/-- The table of a list of entries, a later entry of a key winning over an earlier one. -/
def ofList (es : List (String × α)) : List (String × α) :=
  es.foldl (fun t e => insert t e.1 e.2) []

/-- Writes every entry of `es` over `t`, in order. -/
def extend (t : List (String × α)) (es : List (String × α)) : List (String × α) :=
  es.foldl (fun t e => insert t e.1 e.2) t

/-- The keys in order. -/
def keys (t : List (String × α)) : List String := t.map (·.1)

theorem get?_insert_self (t : List (String × α)) (k : String) (v : α) :
    get? (insert t k v) k = some v := by
  induction t with
  | nil => simp [insert, get?]
  | cons e rest ih =>
    obtain ⟨k', v'⟩ := e
    unfold insert
    by_cases h1 : k < k'
    · simp [h1, get?]
    · by_cases h2 : k = k'
      · simp [h2, get?]
      · simp only [h1, h2, if_false]
        simp only [get?, Ne.symm h2, if_false, ih]

theorem get?_insert_other (t : List (String × α)) (k j : String) (v : α) (h : j ≠ k) :
    get? (insert t k v) j = get? t j := by
  induction t with
  | nil => simp [insert, get?, Ne.symm h]
  | cons e rest ih =>
    obtain ⟨k', v'⟩ := e
    unfold insert
    by_cases h1 : k < k'
    · simp [h1, get?, Ne.symm h]
    · by_cases h2 : k = k'
      · subst h2; simp [get?, Ne.symm h]
      · simp only [h1, h2, if_false, get?, ih]

end Stencil.Keyed
