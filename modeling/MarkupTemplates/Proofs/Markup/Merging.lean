import Mathlib
import MarkupTemplates.Proofs.Markup.Attributes

/-!
# The laws of merging

The mappings that can be built (`Attributes.Built`) are those with distinct keys
(`Attributes.built_iff`), and among them merging is associative, order included, has the mapping
without keys as its unit on both sides, and takes nothing from a mapping a second time.

All of it rests on `merge_insert`: to bind one more key in `b` and then to merge `b` is to merge `b`
and then to bind the key.  There the keys of `b` must be distinct, or the key would be bound in the
first of its places and read in the last.
-/

namespace MarkupTemplates.Markup.Attributes

variable {a b : Attributes} {key other value : String}

/-- A mapping that was built from nothing with the operations on mappings. -/
inductive Built : Attributes → Prop where
  /-- Nothing was done. -/
  | empty : Built ∅
  /-- A key was bound. -/
  | insert {a : Attributes} (key value : String) : a.Built → Built (a.insert key value)
  /-- A key was dropped. -/
  | erase {a : Attributes} (key : String) : a.Built → Built (a.erase key)
  /-- A mapping was merged into another one. -/
  | merge {a b : Attributes} : a.Built → b.Built → Built (a.merge b)
  /-- Pairs were collected. -/
  | ofList (pairs : List (String × String)) : Built (ofList pairs)

theorem keys_nodup_empty : (∅ : Attributes).keys.Nodup := List.nodup_nil

/-- **The keys of a mapping stay distinct.** -/
theorem Built.keys_nodup (h : a.Built) : a.keys.Nodup := by
  induction h with
  | empty => exact keys_nodup_empty
  | insert key value _ ih => exact keys_nodup_insert ih key value
  | erase key _ ih => exact keys_nodup_erase ih key
  | merge _ _ iha _ => exact keys_nodup_merge iha _
  | ofList pairs => exact keys_nodup_merge keys_nodup_empty ⟨pairs⟩

/-! ### One pair after the other -/

theorem merge_cons {pair : String × String} {pairs : List (String × String)} :
    a.merge ⟨pair :: pairs⟩ = (a.insert pair.1 pair.2).merge ⟨pairs⟩ := rfl

/-- The last pair of a mapping is merged in last. -/
theorem merge_concat {pair : String × String} {pairs : List (String × String)} :
    a.merge ⟨pairs ++ [pair]⟩ = (a.merge ⟨pairs⟩).insert pair.1 pair.2 := by
  rw [merge, List.foldl_append]
  rfl

/-- A mapping gets one key at most with a pair. -/
theorem mem_keys_insert : other ∈ (a.insert key value).keys ↔ other = key ∨ other ∈ a.keys := by
  rw [keys_insert]
  split
  · rename_i hmem
    exact ⟨.inr, fun h => h.elim (fun heq => heq ▸ hmem) id⟩
  · rw [List.mem_append, List.mem_singleton, or_comm]

/-- The second of two values is the one that stays. -/
theorem insert_insert (first value : String) :
    (a.insert key first).insert key value = a.insert key value := by
  obtain ⟨pairs⟩ := a
  induction pairs with
  | nil =>
      have hone : insert ⟨[]⟩ key first = ⟨[(key, first)]⟩ := rfl
      rw [hone, insert_cons, if_pos rfl]
      rfl
  | cons pair pairs ih =>
      rw [insert_cons, insert_cons]
      split
      · rw [insert_cons, if_pos rfl]
      · rename_i hne
        rw [insert_cons, if_neg hne, ih]

/-- A key that has a place may be bound before another key or afterwards. -/
theorem insert_comm {otherValue : String} (hkey : key ∈ a.keys) (hne : key ≠ other) :
    (a.insert other otherValue).insert key value =
      (a.insert key value).insert other otherValue := by
  obtain ⟨pairs⟩ := a
  induction pairs with
  | nil => cases hkey
  | cons pair pairs ih =>
      rw [keys_cons, List.mem_cons] at hkey
      rw [insert_cons, insert_cons]
      by_cases hfirst : pair.1 = key
      · have hother : pair.1 ≠ other := hfirst ▸ hne
        rw [if_neg hother, if_pos hfirst, insert_cons, insert_cons, if_pos hfirst, if_neg hne]
      · rw [if_neg hfirst]
        have hrest : key ∈ keys ⟨pairs⟩ := hkey.resolve_left (Ne.symm hfirst)
        split
        · rename_i hother
          rw [insert_cons, insert_cons, if_neg (Ne.symm hne), if_pos hother]
        · rename_i hother
          rw [insert_cons, insert_cons, if_neg hfirst, if_neg hother, ih hrest]

/-- A key that has a place may be bound before other keys are merged or afterwards. -/
theorem insert_merge (hkey : key ∈ a.keys) (hother : key ∉ b.keys) :
    (a.merge b).insert key value = (a.insert key value).merge b := by
  obtain ⟨pairs⟩ := b
  induction pairs generalizing a with
  | nil => rfl
  | cons pair pairs ih =>
      rw [keys_cons, List.mem_cons, not_or] at hother
      rw [merge_cons, merge_cons, ih (mem_keys_insert.mpr (.inr hkey)) hother.2,
        insert_comm hkey hother.1]

/-- **To bind a key and then to merge is to merge and then to bind the key.** -/
theorem merge_insert (hb : b.keys.Nodup) :
    a.merge (b.insert key value) = (a.merge b).insert key value := by
  obtain ⟨pairs⟩ := b
  induction pairs generalizing a with
  | nil => rfl
  | cons pair pairs ih =>
      obtain ⟨first, firstValue⟩ := pair
      obtain ⟨hfirst, hrest⟩ := List.nodup_cons.mp hb
      rw [insert_cons]
      split
      · rename_i heq
        cases heq
        -- the key is bound in the first place now, and no pair behind it binds it again
        have hkey : first ∈ (a.insert first firstValue).keys := mem_keys_insert.mpr (.inl rfl)
        rw [merge_cons, merge_cons, insert_merge hkey hfirst, insert_insert]
      · rw [merge_cons, merge_cons]
        exact ih hrest

/-! ### The laws -/

/-- **Merging is associative.** -/
theorem merge_assoc (hb : b.keys.Nodup) (c : Attributes) :
    (a.merge b).merge c = a.merge (b.merge c) := by
  obtain ⟨pairs⟩ := c
  induction pairs generalizing b with
  | nil => rfl
  | cons pair pairs ih =>
      rw [merge_cons, merge_cons, ← ih (keys_nodup_insert hb pair.1 pair.2), merge_insert hb]

theorem merge_empty : a.merge ∅ = a := rfl

/-- Merged into nothing a mapping is itself, if its keys are distinct. -/
theorem empty_merge (hb : b.keys.Nodup) : (∅ : Attributes).merge b = b := by
  obtain ⟨pairs⟩ := b
  induction pairs using List.reverseRecOn with
  | nil => rfl
  | append_singleton pairs pair ih =>
      have hkeys : keys ⟨pairs ++ [pair]⟩ = keys ⟨pairs⟩ ++ [pair.1] := List.map_append
      rw [hkeys, List.nodup_append] at hb
      obtain ⟨hpairs, -, hdisjoint⟩ := hb
      have hnew : pair.1 ∉ keys ⟨pairs⟩ :=
        fun hmem => hdisjoint _ hmem _ List.mem_cons_self rfl
      rw [merge_concat, ih hpairs, insert_of_notMem hnew]

/-- The mappings that can be built are those with distinct keys. -/
theorem built_iff : a.Built ↔ a.keys.Nodup := by
  constructor
  · exact Built.keys_nodup
  · intro h
    rw [← empty_merge h]
    exact .ofList a.toList

/-! ### Keys and values -/

/-- **The value of a key in a merged mapping** is the one that was merged, if there is one. -/
theorem get?_merge (hb : b.keys.Nodup) :
    (a.merge b).get? key = (b.get? key).or (a.get? key) := by
  obtain ⟨pairs⟩ := b
  induction pairs generalizing a with
  | nil => rfl
  | cons pair pairs ih =>
      obtain ⟨hfirst, hrest⟩ := List.nodup_cons.mp hb
      rw [merge_cons, ih hrest, get?_insert, get?_cons]
      split
      · rename_i heq
        rw [heq, get?_eq_none_iff.mpr hfirst]
        rfl
      · rfl

/-- **The keys of a merged mapping** are those it had, followed by those that are new. -/
theorem keys_merge (hb : b.keys.Nodup) :
    (a.merge b).keys = a.keys ++ b.keys.filter (· ∉ a.keys) := by
  obtain ⟨pairs⟩ := b
  induction pairs generalizing a with
  | nil => exact (List.append_nil _).symm
  | cons pair pairs ih =>
      obtain ⟨hfirst, hrest⟩ := List.nodup_cons.mp hb
      rw [merge_cons, ih hrest, keys_insert, keys_cons, List.filter_cons]
      split
      · rename_i hold
        rw [if_neg (by simpa using hold)]
      · rename_i hnew
        have hsame : (keys ⟨pairs⟩).filter (· ∉ a.keys ++ [pair.1]) =
            (keys ⟨pairs⟩).filter (· ∉ a.keys) := by
          refine List.filter_congr fun k hk => ?_
          have hne : k ≠ pair.1 := fun heq => hfirst (heq ▸ hk)
          simp only [List.mem_append, List.mem_singleton, hne, or_false]
        rw [if_pos (by simpa using hnew), hsame, List.append_assoc]
        rfl

/-- A mapping with distinct keys is known by its keys in order and their values. -/
theorem eq_of_keys_of_get? (ha : a.keys.Nodup) (hkeys : a.keys = b.keys)
    (hvalues : ∀ key, a.get? key = b.get? key) : a = b := by
  obtain ⟨ps⟩ := a
  obtain ⟨qs⟩ := b
  induction ps generalizing qs with
  | nil =>
      cases qs with
      | nil => rfl
      | cons q qs => cases hkeys
  | cons p ps ih =>
      cases qs with
      | nil => cases hkeys
      | cons q qs =>
          obtain ⟨hp, hps⟩ := List.nodup_cons.mp ha
          obtain ⟨hfirst, hrest⟩ : p.1 = q.1 ∧ keys ⟨ps⟩ = keys ⟨qs⟩ := List.cons.inj hkeys
          have hvalue : p.2 = q.2 := by
            have h := hvalues p.1
            rw [get?_cons, if_pos rfl, get?_cons, if_pos hfirst] at h
            exact Option.some.inj h
          have hothers : ∀ key, get? ⟨ps⟩ key = get? ⟨qs⟩ key := by
            intro key
            by_cases hkey : key = p.1
            · have hnew : key ∉ keys ⟨ps⟩ := hkey ▸ hp
              rw [get?_eq_none_iff.mpr hnew, get?_eq_none_iff.mpr (hrest ▸ hnew)]
            · have h := hvalues key
              rwa [get?_cons, if_neg hkey, get?_cons, if_neg (hfirst ▸ hkey)] at h
          have hsame := ih hps qs hrest hothers
          rw [Prod.ext hfirst hvalue, Attributes.mk.inj hsame]

/-- **To merge a mapping twice is to merge it once.** -/
theorem merge_merge_self (ha : a.keys.Nodup) (hb : b.keys.Nodup) :
    (a.merge b).merge b = a.merge b := by
  have hmem : ∀ key ∈ b.keys, key ∈ (a.merge b).keys := by
    intro key hkey
    rw [keys_merge hb, List.mem_append, List.mem_filter]
    by_cases hold : key ∈ a.keys
    · exact .inl hold
    · exact .inr ⟨hkey, decide_eq_true hold⟩
  have hnone : b.keys.filter (· ∉ (a.merge b).keys) = [] :=
    List.filter_eq_nil_iff.mpr fun key hkey => by simpa using hmem key hkey
  refine eq_of_keys_of_get? (keys_nodup_merge (keys_nodup_merge ha b) b) ?_ fun key => ?_
  · rw [keys_merge hb, hnone, List.append_nil]
  · rw [get?_merge hb, get?_merge hb, ← Option.or_assoc, Option.or_self]

end MarkupTemplates.Markup.Attributes
