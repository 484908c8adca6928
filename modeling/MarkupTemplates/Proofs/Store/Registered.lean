import MarkupTemplates.Compile.Memo
import MarkupTemplates.Session.Load

/-!
# Registered stores

A store is *registered* (`Store.Registered`) when it came about by registering batches, beginning
with the empty store.  Its index then says what its log says (`Store.Indexed`):

* the definition of an id is the one template of the log that has the id and is no layer;
* the layers of an id are the layers of the log that have the id, by ascending priority, and those
  of one priority in the order of the log.

The two facts about layers leave only one list (`eq_of_sorted_of_filter_eq`).
`Registered.of_add` is the induction behind this: what every template that is not refused keeps
holds of all registered stores.
-/

namespace MarkupTemplates

/-! ### Layers -/

/-- Ascending priorities. -/
abbrev Ascending (ts : List Template) : Prop := ts.Pairwise fun t u => t.priority ≤ u.priority

/-- Inserting a layer drops none. -/
theorem mem_insertLayer {t u : Template} {us : List Template} :
    u ∈ insertLayer t us ↔ u = t ∨ u ∈ us := by
  induction us with
  | nil => simp [insertLayer]
  | cons v us ih =>
      simp only [insertLayer]
      split
      · simp
      · simp only [List.mem_cons, ih]; exact or_left_comm

/-- Inserting a layer keeps the priorities ascending. -/
theorem ascending_insertLayer {t : Template} {us : List Template} (h : Ascending us) :
    Ascending (insertLayer t us) := by
  induction us with
  | nil => simp [insertLayer]
  | cons v us ih =>
      obtain ⟨hv, hus⟩ := List.pairwise_cons.mp h
      simp only [insertLayer]
      split
      · rename_i hlt
        refine List.pairwise_cons.mpr ⟨fun u hu => ?_, h⟩
        rcases List.mem_cons.mp hu with rfl | hu
        · omega
        · have := hv u hu; omega
      · refine List.pairwise_cons.mpr ⟨fun u hu => ?_, ih hus⟩
        rcases mem_insertLayer.mp hu with rfl | hu
        · omega
        · exact hv u hu

/-- A new layer comes after those of its priority. -/
theorem filter_insertLayer {t : Template} {us : List Template} (h : Ascending us) (p : Int) :
    (insertLayer t us).filter (·.priority == p) =
      us.filter (·.priority == p) ++ [t].filter (·.priority == p) := by
  induction us with
  | nil => simp [insertLayer]
  | cons v us ih =>
      obtain ⟨hv, hus⟩ := List.pairwise_cons.mp h
      simp only [insertLayer]
      split
      · rename_i hlt
        by_cases htp : t.priority = p
        · have hnone : (v :: us).filter (·.priority == p) = [] := by
            refine List.filter_eq_nil_iff.mpr fun u hu => ?_
            rcases List.mem_cons.mp hu with rfl | hu
            · simp; omega
            · have := hv u hu
              simp; omega
          rw [List.filter_cons_of_pos (by simpa using htp), hnone]
          simp [htp]
        · rw [List.filter_cons_of_neg (by simpa using htp)]
          simp [htp]
      · simp only [List.filter_cons, ih hus]
        split <;> simp

theorem head_le_of_mem {t u : Template} {ts : List Template} (h : Ascending (t :: ts))
    (hu : u ∈ t :: ts) : t.priority ≤ u.priority := by
  rcases List.mem_cons.mp hu with rfl | hu
  · exact Int.le_refl _
  · exact List.rel_of_pairwise_cons h hu

/-- An ascending list is known once its elements of each priority are. -/
theorem eq_of_sorted_of_filter_eq {ts us : List Template} (ht : Ascending ts) (hu : Ascending us)
    (h : ∀ p, ts.filter (·.priority == p) = us.filter (·.priority == p)) : ts = us := by
  have hmem : ∀ v, v ∈ ts ↔ v ∈ us := fun v => by
    have := congrArg (v ∈ ·) (h v.priority)
    simpa using this
  induction ts generalizing us with
  | nil =>
      cases us with
      | nil => rfl
      | cons u us => simpa using (hmem u).mpr (by simp)
  | cons t ts ih =>
      cases us with
      | nil => simpa using (hmem t).mp (by simp)
      | cons u us =>
          have hle : t.priority ≤ u.priority := head_le_of_mem ht ((hmem u).mpr (by simp))
          have hge : u.priority ≤ t.priority := head_le_of_mem hu ((hmem t).mp (by simp))
          have heq : u.priority = t.priority := by omega
          have hhead := h t.priority
          simp only [List.filter_cons, heq, beq_self_eq_true, if_true, List.cons.injEq] at hhead
          obtain ⟨rfl, -⟩ := hhead
          have htail : ∀ p, ts.filter (·.priority == p) = us.filter (·.priority == p) := fun p => by
            have hp := h p
            simp only [List.filter_cons] at hp
            split at hp
            · exact (List.cons.inj hp).2
            · exact hp
          rw [ih ht.of_cons hu.of_cons htail fun v => by
            simpa using congrArg (v ∈ ·) (htail v.priority)]

namespace Store

/-! ### One template more -/

/-- A template is indexed in the slot of its id, and every other slot stays as it is. -/
theorem find?_addToSlots (t : Template) (slots : List Slot) (id : String) :
    (addToSlots t slots).find? (·.id == id) =
      if id = t.id then some (((slots.find? (·.id == id)).getD ⟨id, none, []⟩).add t)
      else slots.find? (·.id == id) := by
  induction slots with
  | nil =>
      by_cases h : id = t.id
      · subst h; simp only [addToSlots, Slot.add]; split <;> simp
      · have h' : (t.id == id) = false := by simpa using Ne.symm h
        simp only [addToSlots, Slot.add]; split <;> simp [h']
  | cons slot slots ih =>
      have hadd : (slot.add t).id = slot.id := by simp only [Slot.add]; split <;> rfl
      simp only [addToSlots]
      split
      · rename_i hs
        simp only [List.find?_cons, hadd, hs]
        by_cases h : id = t.id
        · simp [h]
        · have h' : (t.id == id) = false := by simpa using Ne.symm h
          simp [h, h']
      · rename_i hs
        simp only [List.find?_cons]
        by_cases h : slot.id = id
        · subst h; simp [hs]
        · have h' : (slot.id == id) = false := by simpa using h
          simp only [h', ih]

theorem slot?_add (s : Store) (t : Template) (id : String) :
    (s.add t).slot? id =
      if id = t.id then some (((s.slot? id).getD ⟨id, none, []⟩).add t) else s.slot? id :=
  find?_addToSlots t s.slots id

/-- A template that is no layer becomes the definition of its id, and of no other. -/
theorem definition?_add (s : Store) (t : Template) (id : String) :
    (s.add t).definition? id =
      if id = t.id ∧ t.isLayer = false then some t else s.definition? id := by
  simp only [definition?, slot?_add]
  by_cases h : id = t.id
  · rw [if_pos h]
    by_cases hl : t.isLayer
    · cases hs : s.slot? id <;> simp [Slot.add, hl]
    · simp [Slot.add, hl, h]
  · simp [h]

/-- A layer is inserted among the layers of its id, and of no other. -/
theorem layers_add (s : Store) (t : Template) (id : String) :
    (s.add t).layers id =
      if id = t.id ∧ t.isLayer = true then insertLayer t (s.layers id) else s.layers id := by
  simp only [layers, slot?_add]
  by_cases h : id = t.id
  · rw [if_pos h]
    by_cases hl : t.isLayer
    · cases hs : s.slot? id <;> simp [Slot.add, hl, h]
    · cases hs : s.slot? id <;> simp [Slot.add, hl]
  · simp [h]

theorem knows_add (s : Store) (t : Template) (id : String) :
    (s.add t).knows id = (id == t.id || s.knows id) := by
  simp only [knows, slot?_add]
  by_cases h : id = t.id <;> simp [h]

theorem contains_add (s : Store) (t : Template) (id : String) :
    (s.add t).contains id = (s.contains id || (!t.isLayer && id == t.id)) := by
  simp only [contains, definition?_add]
  by_cases h : id = t.id <;> by_cases hl : t.isLayer <;> simp [h, hl]

/-! ### Batches -/

/-- The store came about by registering batches. -/
inductive Registered : Store → Prop where
  | empty : Registered .empty
  | batch {s after : Store} {ts : List Template} {handles : Noted (List Handle)} :
      Registered s → s.registerAll ts = .ok (after, handles) → Registered after

/-- What is loaded from a source is registered as a batch. -/
theorem exists_registerAll_of_load {s after : Store} {minify : Bool} {name source : String}
    {handles : Noted (List Handle)} (h : s.load minify name source = .ok (after, handles)) :
    ∃ ts noted, readTemplates minify name source = .ok ts ∧
      s.registerAll ts = .ok (after, noted) := by
  rw [load] at h
  split at h
  · cases h
  · rename_i ts hts
    split at h
    · cases h
    · rename_i after' noted hreg
      cases h
      exact ⟨ts, noted, hts, hreg⟩

/-- A batch leaves the store that its templates leave one by one. -/
theorem addAll_fst (s : Store) (ts : List Template) : (s.addAll ts).1 = ts.foldl add s := by
  induction ts generalizing s with
  | nil => rfl
  | cons t ts ih => exact ih (s.add t)

/-- Registering a batch changes nothing, or adds its templates and counts one generation more. -/
theorem registerAll_eq {s after : Store} {ts : List Template} {handles : Noted (List Handle)}
    (h : s.registerAll ts = .ok (after, handles)) :
    s.checkBatch [] ts = .ok () ∧
      (after = s ∧ ts = [] ∨ after = { ts.foldl add s with generation := s.generation + 1 }) := by
  simp only [registerAll] at h
  split at h
  · cases h
  · rename_i hcheck
    refine ⟨hcheck, ?_⟩
    split at h
    · rename_i hempty
      cases h; exact .inl ⟨rfl, List.isEmpty_iff.mp hempty⟩
    · cases h; rw [addAll_fst]; exact .inr rfl

/-- A template that is not refused can be registered. -/
theorem exists_registerAll_of_refusal? {s : Store} {t : Template} (h : s.refusal? [] t = none) :
    ∃ after handles, s.registerAll [t] = .ok (after, handles) := by
  rw [registerAll, checkBatch, h]
  exact ⟨_, _, rfl⟩

theorem templates_foldl_add (s : Store) (ts : List Template) :
    (ts.foldl add s).templates = s.templates ++ ts := by
  induction ts generalizing s with
  | nil => simp
  | cons t ts ih => simp [ih, add]

/-- A batch that is accepted is put at the end of the log, in its order. -/
theorem templates_registerAll {s after : Store} {ts : List Template}
    {handles : Noted (List Handle)} (h : s.registerAll ts = .ok (after, handles)) :
    after.templates = s.templates ++ ts := by
  obtain ⟨-, ⟨rfl, rfl⟩ | rfl⟩ := registerAll_eq h
  · simp
  · exact templates_foldl_add s ts

/-- A refusal in the middle of a batch is one by the store that holds the earlier templates. -/
theorem refusal?_congr {s cur : Store} {taken : List String} {t : Template}
    (h : cur.contains t.id = (s.contains t.id || taken.contains t.id)) :
    cur.refusal? [] t = s.refusal? taken t := by
  simp only [refusal?, h, List.contains_nil, Bool.or_false]

/-- **What every template keeps that is not refused, a batch keeps.**  The ids defined earlier in
the batch are those that the current store has got since. -/
theorem foldl_add_of_checkBatch {I : Store → Prop}
    (hadd : ∀ s t, I s → s.refusal? [] t = none → I (s.add t)) {s : Store} {ts : List Template} :
    ∀ {cur : Store} {taken : List String}, s.checkBatch taken ts = .ok () → I cur →
      (∀ id, cur.contains id = (s.contains id || taken.contains id)) → I (ts.foldl add cur) := by
  induction ts with
  | nil => intro cur taken _ hI _; exact hI
  | cons t ts ih =>
      intro cur taken h hI hcur
      simp only [checkBatch] at h
      split at h
      · cases h
      · rename_i hnone
        refine ih h (hadd cur t hI (refusal?_congr (hcur t.id) ▸ hnone)) fun id => ?_
        rw [contains_add, hcur]
        by_cases hl : t.isLayer <;> by_cases hid : id = t.id <;> simp [hl, hid]

/-- What every template keeps that is not refused holds of all registered stores. -/
theorem Registered.of_add {I : Store → Prop} (hempty : I .empty)
    (hadd : ∀ s t, I s → s.refusal? [] t = none → I (s.add t))
    (hgen : ∀ s n, I s → I { s with generation := n }) {s : Store} (h : s.Registered) : I s := by
  induction h with
  | empty => exact hempty
  | batch _ hreg ih =>
      obtain ⟨hcheck, ⟨rfl, -⟩ | rfl⟩ := registerAll_eq hreg
      · exact ih
      · exact hgen _ _ (foldl_add_of_checkBatch hadd hcheck ih (by simp))

/-- A template with a blank id is refused. -/
theorem isBlankText_eq_false_of_refusal? {s : Store} {t : Template}
    (h : s.refusal? [] t = none) : Text.isBlankText t.id = false := by
  rw [refusal?] at h
  split at h
  · cases h
  · rename_i hblank
    simpa using hblank

/-- No template of a registered store has a blank id. -/
theorem Registered.isBlankText_id {s : Store} (h : s.Registered) :
    ∀ t ∈ s.templates, Text.isBlankText t.id = false := by
  refine h.of_add (I := fun s => ∀ t ∈ s.templates, Text.isBlankText t.id = false) ?_ ?_ ?_
  · exact nofun
  · intro s t hs ht u hu
    rcases List.mem_append.mp hu with hu | hu
    · exact hs u hu
    · rw [List.mem_singleton.mp hu]
      exact isBlankText_eq_false_of_refusal? ht
  · exact fun _ _ hs => hs

/-! ### The index and the log -/

/-- The index of a store says what its log says. -/
structure Indexed (s : Store) : Prop where
  /-- The definition of an id is the only template with the id that is no layer. -/
  definition?_eq_some_iff : ∀ id t,
    s.definition? id = some t ↔ t ∈ s.templates ∧ t.isLayer = false ∧ t.id = id
  /-- The layers stand by ascending priority. -/
  ascending_layers : ∀ id, Ascending (s.layers id)
  /-- The layers of one priority stand in the order of the log. -/
  filter_layers : ∀ id p, (s.layers id).filter (·.priority == p) =
    s.templates.filter fun t => t.isLayer && t.id == id && t.priority == p
  /-- A store knows the ids of its templates. -/
  knows_iff : ∀ id, s.knows id = true ↔ ∃ t ∈ s.templates, t.id = id

/-- A template that is no layer is refused if its id is defined. -/
theorem contains_eq_false_of_refusal? {s : Store} {t : Template} (h : s.refusal? [] t = none)
    (hl : t.isLayer = false) : s.contains t.id = false := by
  have hlayered : t.layered? = none := by
    obtain ⟨id, body, origin⟩ := t
    cases body <;> simp_all [Template.isLayer, Template.mode?, Template.layered?]
  simp only [refusal?, hlayered] at h
  split at h
  · cases h
  · split at h
    · cases h
    · rename_i hc; simpa using hc

/-- **A template that is not refused leaves the index saying what the log says.** -/
theorem Indexed.add {s : Store} {t : Template} (h : s.Indexed) (ht : s.refusal? [] t = none) :
    (s.add t).Indexed where
  definition?_eq_some_iff id u := by
    have hlog : (s.add t).templates = s.templates ++ [t] := rfl
    rw [definition?_add, hlog, List.mem_append, List.mem_singleton]
    split
    · rename_i hid
      obtain ⟨rfl, hl⟩ := hid
      -- no earlier definition has the id of a template that is not refused
      have hnew : s.definition? t.id = none := by
        simpa [contains] using contains_eq_false_of_refusal? ht hl
      constructor
      · intro e; cases e; exact ⟨.inr rfl, hl, rfl⟩
      · rintro ⟨hu | rfl, hul, huid⟩
        · have := (h.definition?_eq_some_iff _ u).mpr ⟨hu, hul, huid⟩
          rw [hnew] at this; cases this
        · rfl
    · rename_i hid
      rw [h.definition?_eq_some_iff]
      constructor
      · rintro ⟨hu, hrest⟩; exact ⟨.inl hu, hrest⟩
      · rintro ⟨hu | rfl, hul, huid⟩
        · exact ⟨hu, hul, huid⟩
        · exact absurd ⟨huid.symm, hul⟩ hid
  ascending_layers id := by
    rw [layers_add]
    split
    · exact ascending_insertLayer (h.ascending_layers id)
    · exact h.ascending_layers id
  filter_layers id p := by
    have hlog : (s.add t).templates = s.templates ++ [t] := rfl
    rw [layers_add, hlog, List.filter_append, ← h.filter_layers]
    split
    · rename_i hid
      obtain ⟨rfl, hl⟩ := hid
      rw [filter_insertLayer (h.ascending_layers _)]
      simp [List.filter_cons, hl]
    · rename_i hid
      have : ¬ (t.isLayer = true ∧ t.id = id) := fun e => hid ⟨e.2.symm, e.1⟩
      by_cases hl : t.isLayer = true <;> by_cases hid : t.id = id <;> simp_all
  knows_iff id := by
    have hlog : (s.add t).templates = s.templates ++ [t] := rfl
    rw [knows_add, Bool.or_eq_true, beq_iff_eq, h.knows_iff, hlog]
    constructor
    · rintro (rfl | ⟨u, hu, rfl⟩)
      · exact ⟨t, by simp, rfl⟩
      · exact ⟨u, by simp [hu], rfl⟩
    · rintro ⟨u, hu, rfl⟩
      rcases List.mem_append.mp hu with hu | hu
      · exact .inr ⟨u, hu, rfl⟩
      · rw [List.mem_singleton.mp hu]; exact .inl rfl

/-- The index of the empty store says that there is nothing. -/
theorem indexed_empty : Store.empty.Indexed where
  definition?_eq_some_iff := by simp [empty, definition?, slot?]
  ascending_layers := by simp [empty, layers, slot?, Ascending]
  filter_layers := by simp [empty, layers, slot?]
  knows_iff := by simp [empty, knows, slot?]

/-- **The index of a registered store says what its log says.** -/
theorem Registered.indexed {s : Store} (h : s.Registered) : s.Indexed :=
  h.of_add indexed_empty (fun _ _ hI ht => hI.add ht)
    fun _ _ hI => ⟨hI.1, hI.2, hI.3, hI.4⟩

namespace Indexed

variable {s : Store} (h : s.Indexed)

include h

theorem mem_layers {id : String} {t : Template} (ht : t ∈ s.layers id) :
    t ∈ s.templates ∧ t.id = id := by
  have hmem : t ∈ (s.layers id).filter (·.priority == t.priority) := by simpa using ht
  rw [h.filter_layers] at hmem
  simp only [List.mem_filter, Bool.and_eq_true, beq_iff_eq] at hmem
  exact ⟨hmem.1, hmem.2.1.2⟩

theorem mem_layers_of_isLayer {t : Template} (ht : t ∈ s.templates) (hlayer : t.isLayer = true) :
    t ∈ s.layers t.id := by
  have hmem : t ∈ (s.layers t.id).filter (·.priority == t.priority) := by
    rw [h.filter_layers]; simp [ht, hlayer]
  exact (List.mem_filter.mp hmem).1

theorem mem_of_definition? {id : String} {t : Template} (ht : s.definition? id = some t) :
    t ∈ s.templates ∧ t.id = id :=
  have := (h.definition?_eq_some_iff id t).mp ht
  ⟨this.1, this.2.2⟩

end Indexed

end Store

end MarkupTemplates
