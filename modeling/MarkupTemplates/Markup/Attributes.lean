/-!
# Attribute mappings

An attribute mapping lists keys with their values in the order in which the keys first came.
`insert` overwrites a present key where it stands and puts a new key at the end, so that the keys of
a mapping built with `insert`, `erase` and `merge` stay distinct (`keys_nodup_insert` and its kin).
The view of a mapping is `get?`; each operation has a lemma that says what it does to the view.
-/

namespace MarkupTemplates.Markup

/-- Keys with their values, in the order of first arrival. -/
structure Attributes where
  /-- The pairs of the mapping. -/
  toList : List (String × String)
deriving DecidableEq, Repr, Inhabited

namespace Attributes

/-- The mapping without keys. -/
def empty : Attributes := ⟨[]⟩

instance : EmptyCollection Attributes := ⟨empty⟩

/-- The keys in order. -/
def keys (a : Attributes) : List String := a.toList.map Prod.fst

/-- The number of keys. -/
def size (a : Attributes) : Nat := a.toList.length

/-- Whether the mapping has no key. -/
def isEmpty (a : Attributes) : Bool := a.toList.isEmpty

/-- The value of a key. -/
def get? (a : Attributes) (key : String) : Option String := a.toList.lookup key

/-- Whether a key is present. -/
def contains (a : Attributes) (key : String) : Bool := (a.get? key).isSome

/-- The pairs with `key` bound to `value`: in place if `key` is there, else at the end. -/
def insertPair (key value : String) : List (String × String) → List (String × String)
  | [] => [(key, value)]
  | (k, v) :: rest => if k = key then (key, value) :: rest else (k, v) :: insertPair key value rest

/-- Binds a key to a value; a present key keeps its place, a new one goes to the end. -/
def insert (a : Attributes) (key value : String) : Attributes := ⟨insertPair key value a.toList⟩

/-- Drops a key. -/
def erase (a : Attributes) (key : String) : Attributes := ⟨a.toList.filter (·.1 ≠ key)⟩

/-- Inserts the pairs of `b` one after the other. -/
def merge (a b : Attributes) : Attributes :=
  b.toList.foldl (fun acc pair => acc.insert pair.1 pair.2) a

/-- The mapping built by inserting pairs one after the other. -/
def ofList (pairs : List (String × String)) : Attributes := empty.merge ⟨pairs⟩

/-! ### Keys -/

/-- A new key is put behind the others, and an old one keeps its place. -/
theorem keys_insert (a : Attributes) (key value : String) :
    (a.insert key value).keys = if key ∈ a.keys then a.keys else a.keys ++ [key] := by
  obtain ⟨pairs⟩ := a
  induction pairs with
  | nil => simp [insert, insertPair, keys]
  | cons p rest ih =>
    obtain ⟨k, v⟩ := p
    simp only [insert, keys, insertPair] at ih ⊢
    by_cases h : k = key
    · simp [h]
    · have h' : key ≠ k := Ne.symm h
      simp only [h, if_false, List.map_cons, List.mem_cons, h', false_or]
      rw [ih]
      split <;> simp_all

theorem keys_nodup_insert {a : Attributes} (h : a.keys.Nodup) (key value : String) :
    (a.insert key value).keys.Nodup := by
  rw [keys_insert]
  split
  · exact h
  · rename_i hk
    rw [List.nodup_append]
    refine ⟨h, by simp, ?_⟩
    intro x hx y hy
    simp only [List.mem_singleton] at hy
    subst hy; intro he; exact hk (he ▸ hx)

theorem keys_nodup_erase {a : Attributes} (h : a.keys.Nodup) (key : String) :
    (a.erase key).keys.Nodup :=
  h.sublist (List.filter_sublist.map _)

theorem keys_nodup_merge {a : Attributes} (h : a.keys.Nodup) (b : Attributes) :
    (a.merge b).keys.Nodup := by
  obtain ⟨pairs⟩ := b
  simp only [merge]
  induction pairs generalizing a with
  | nil => exact h
  | cons p rest ih => exact ih (keys_nodup_insert h p.1 p.2)

/-! ### Values -/

/-- Inserting a pair changes the value of its key only. -/
theorem get?_insert (a : Attributes) (key value k : String) :
    (a.insert key value).get? k = if k = key then some value else a.get? k := by
  obtain ⟨pairs⟩ := a
  simp only [insert, get?]
  induction pairs with
  | nil =>
    simp [insertPair]
  | cons p rest ih =>
    obtain ⟨k', v'⟩ := p
    simp only [insertPair]
    by_cases hk : k' = key
    · subst hk
      by_cases h : k = k'
      · simp [h]
      · have hb : (k == k') = false := by simpa using h
        simp [List.lookup_cons, hb, h]
    · rw [if_neg hk]
      by_cases h : k = k'
      · subst h; simp [hk]
      · have hb : (k == k') = false := by simpa using h
        simp only [List.lookup_cons, hb, ih]

end Attributes

end MarkupTemplates.Markup
