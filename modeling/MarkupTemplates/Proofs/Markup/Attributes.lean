import MarkupTemplates.Markup.Attributes

/-!
# Mappings pair by pair

What the operations on mappings do with the first pair, and to a mapping without the key.  A mapping
that two others were merged into has no pair that neither of them had, and it is empty only if both
are.
-/

namespace MarkupTemplates.Markup.Attributes

variable {a b : Attributes} {pair : String × String} {pairs : List (String × String)}
  {key value : String}

/-! ### The first pair -/

theorem keys_cons : keys ⟨pair :: pairs⟩ = pair.1 :: keys ⟨pairs⟩ := rfl

/-- The mapping with a key bound in the place of the key, if it has a place. -/
theorem insert_cons :
    insert ⟨pair :: pairs⟩ key value =
      if pair.1 = key then ⟨(key, value) :: pairs⟩
      else ⟨pair :: (insert ⟨pairs⟩ key value).toList⟩ := by
  rw [insert, insertPair]
  split
  · rfl
  · rfl

/-- A new key is put at the end. -/
theorem insert_of_notMem (h : key ∉ a.keys) :
    a.insert key value = ⟨a.toList ++ [(key, value)]⟩ := by
  obtain ⟨pairs⟩ := a
  induction pairs with
  | nil => rfl
  | cons pair pairs ih =>
      rw [keys_cons, List.mem_cons, not_or] at h
      rw [insert_cons, if_neg (Ne.symm h.1), ih h.2]
      rfl

theorem get?_cons :
    get? ⟨pair :: pairs⟩ key = if key = pair.1 then some pair.2 else get? ⟨pairs⟩ key := by
  rw [get?, List.lookup_cons]
  by_cases h : key = pair.1
  · rw [if_pos h, beq_iff_eq.mpr h]
  · rw [if_neg h, beq_eq_false_iff_ne.mpr h]
    rfl

/-- A key without a value is none of the mapping. -/
theorem get?_eq_none_iff : a.get? key = none ↔ key ∉ a.keys := by
  obtain ⟨pairs⟩ := a
  induction pairs with
  | nil => exact ⟨fun _ => List.not_mem_nil, fun _ => rfl⟩
  | cons pair pairs ih =>
      rw [get?_cons, keys_cons, List.mem_cons, not_or, ← ih]
      split
      · rename_i heq
        exact ⟨nofun, fun h => absurd heq h.1⟩
      · rename_i hne
        exact (and_iff_right hne).symm

theorem contains_eq_false_iff : a.contains key = false ↔ key ∉ a.keys := by
  rw [contains, Option.isSome_eq_false_iff, Option.isNone_iff_eq_none, get?_eq_none_iff]

/-! ### Pairs of merged mappings -/

/-- Inserting a pair brings in no other. -/
theorem mem_insertPair (h : pair ∈ insertPair key value pairs) :
    pair = (key, value) ∨ pair ∈ pairs := by
  induction pairs with
  | nil => exact .inl (List.mem_singleton.mp h)
  | cons p rest ih =>
      obtain ⟨k, v⟩ := p
      rw [insertPair] at h
      split at h
      · rcases List.mem_cons.mp h with h | h
        · exact .inl h
        · exact .inr (List.mem_cons_of_mem _ h)
      · rcases List.mem_cons.mp h with rfl | h
        · exact .inr List.mem_cons_self
        · exact (ih h).imp_right (List.mem_cons_of_mem _)

/-- **Each pair of a merged mapping is a pair of one of the two.** -/
theorem mem_merge (h : pair ∈ (a.merge b).toList) : pair ∈ a.toList ∨ pair ∈ b.toList := by
  obtain ⟨pairs⟩ := b
  simp only [merge] at h ⊢
  induction pairs generalizing a with
  | nil => exact .inl h
  | cons p rest ih =>
      rcases ih h with h | h
      · rcases mem_insertPair h with h | h
        · exact .inr (h ▸ List.mem_cons_self)
        · exact .inl h
      · exact .inr (List.mem_cons_of_mem _ h)

/-- Merging brings in no key that neither mapping has. -/
theorem mem_keys_merge (h : key ∈ (a.merge b).keys) : key ∈ a.keys ∨ key ∈ b.keys := by
  obtain ⟨pair, hpair, rfl⟩ := List.mem_map.mp h
  exact (mem_merge hpair).imp (List.mem_map_of_mem) (List.mem_map_of_mem)

theorem isEmpty_insert (a : Attributes) (key value : String) :
    (a.insert key value).isEmpty = false := by
  obtain ⟨pairs⟩ := a
  cases pairs with
  | nil => rfl
  | cons p rest =>
      simp only [insert, insertPair, isEmpty]
      split
      · rfl
      · rfl

/-- Merging leaves nothing only if there is nothing. -/
theorem isEmpty_merge : (a.merge b).isEmpty = (a.isEmpty && b.isEmpty) := by
  obtain ⟨pairs⟩ := b
  induction pairs generalizing a with
  | nil => exact (Bool.and_true _).symm
  | cons p rest ih =>
      change ((a.insert p.1 p.2).merge ⟨rest⟩).isEmpty = _
      rw [ih, isEmpty_insert]
      exact (Bool.and_false _).symm

end MarkupTemplates.Markup.Attributes
