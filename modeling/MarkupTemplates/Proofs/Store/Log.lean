import MarkupTemplates.Proofs.Store.Registered

/-!
# A store and its log

A store keeps its templates, an index of them, the order of the ids and a count of batches.  All of
it is a function of one list, the *log*: the batches that were accepted, one after the other.

* `Shows`: what a store answers about its templates, said of its log alone.
* `Registered.shows`: every registered store shows the templates it keeps.
* `serve_shows`: after any calls, accepted or refused, the store shows the accepted batches, each
  receipt says at which place of the log its template is, and the generation counts the batches.
-/

namespace MarkupTemplates

/-- A call that registers templates: one, or a batch. -/
inductive Registration where
  /-- A call for one template. -/
  | one (t : Template)
  /-- A call for a batch. -/
  | batch (ts : List Template)

/-- The templates of a call. -/
def Registration.templates : Registration → List Template
  | .one t => [t]
  | .batch ts => ts

/-- Whether a template is the definition of an id. -/
def Template.defines (id : String) (t : Template) : Bool := !t.isLayer && t.id == id

/-- Whether a template is a layer of an id. -/
def Template.layersOn (id : String) (t : Template) : Bool := t.isLayer && t.id == id

namespace Store

/-! ### What a log shows -/

/-- The store answers what its log says. -/
structure Shows (s : Store) (log : List Template) : Prop where
  /-- It keeps the log. -/
  templates_eq : s.templates = log
  /-- No id has two definitions in the log. -/
  length_filter_le : ∀ id, (log.filter (Template.defines id)).length ≤ 1
  /-- The definition of an id is the one in the log. -/
  get_eq : ∀ id, s.get id =
    match log.find? (Template.defines id) with
    | some t => .ok t
    | none => .error (.notFound id)
  /-- An id has a definition if the log has one. -/
  contains_eq : ∀ id, s.contains id = log.any (Template.defines id)
  /-- The layers of an id are those in the log, sorted by their priority; those of one priority keep
  the order of the log. -/
  layers_eq : ∀ id, s.layers id =
    (log.filter (Template.layersOn id)).mergeSort fun t u => t.priority ≤ u.priority
  /-- An id has layers if the log has one. -/
  hasLayers_eq : ∀ id, s.hasLayers id = log.any (Template.layersOn id)
  /-- The ids are those of the log, each where it first comes. -/
  ids_eq : s.ids = (log.map (·.id)).eraseDups

/-! ### Sorting by priority -/

/-- Sorting leaves the templates of one priority in their order. -/
theorem filter_mergeSort_priority (ts : List Template) (p : Int) :
    (ts.mergeSort fun t u => t.priority ≤ u.priority).filter (·.priority == p) =
      ts.filter (·.priority == p) := by
  have hperm := ts.mergeSort_perm fun t u => decide (t.priority ≤ u.priority)
  -- templates of one priority are sorted as they stand, so sorting keeps them in their order
  have hsub : (ts.filter (·.priority == p)).Sublist
      (ts.mergeSort fun t u => t.priority ≤ u.priority) := by
    refine List.sublist_mergeSort (fun a b c hab hbc => ?_) (fun a b => ?_) ?_ List.filter_sublist
    · simp only [decide_eq_true_eq] at hab hbc ⊢; omega
    · simp only [Bool.or_eq_true, decide_eq_true_eq]; omega
    · refine List.pairwise_filter.mpr (List.pairwise_of_forall fun t u ht hu => ?_)
      simp only [beq_iff_eq] at ht hu
      simp only [decide_eq_true_eq]; omega
  have hfiltered := hsub.filter (·.priority == p)
  simp only [List.filter_filter, Bool.and_self] at hfiltered
  exact (hfiltered.eq_of_length (hperm.filter _).length_eq.symm).symm

theorem ascending_mergeSort (ts : List Template) :
    Ascending (ts.mergeSort fun t u => t.priority ≤ u.priority) := by
  refine (List.pairwise_mergeSort (fun a b c hab hbc => ?_) (fun a b => ?_) ts).imp fun h => ?_
  · simp only [decide_eq_true_eq] at hab hbc ⊢; omega
  · simp only [Bool.or_eq_true, decide_eq_true_eq]; omega
  · simpa using h

/-! ### Registered stores -/

theorem ids_add (s : Store) (t : Template) :
    (s.add t).ids = if t.id ∈ s.ids then s.ids else s.ids ++ [t.id] := by
  have hadd : ∀ slot : Slot, (slot.add t).id = slot.id := fun slot => by
    simp only [Slot.add]; split <;> rfl
  change (addToSlots t s.slots).map (·.id) = _
  rw [ids]
  induction s.slots with
  | nil => simp [addToSlots, hadd]
  | cons slot slots ih =>
      rw [addToSlots]
      by_cases h : slot.id = t.id
      · simp [h, hadd]
      · simp only [if_neg h, List.map_cons, ih, List.mem_cons, Ne.symm h, false_or]
        split <;> rfl

/-- The ids are listed in the order in which they first came. -/
theorem Registered.ids_eq {s : Store} (h : s.Registered) :
    s.ids = (s.templates.map (·.id)).eraseDups := by
  refine h.of_add (I := fun s => s.ids = (s.templates.map (·.id)).eraseDups) rfl
    (fun s t hs _ => ?_) fun _ _ hs => hs
  have hlog : (s.add t).templates = s.templates ++ [t] := rfl
  have hmem : t.id ∈ s.ids ↔ t.id ∈ s.templates.map (·.id) := by rw [hs, List.mem_eraseDups]
  rw [ids_add, hlog, List.map_append, List.eraseDups_append, ← hs]
  generalize s.templates.map (·.id) = earlier at hmem
  by_cases ht : t.id ∈ earlier
  · rw [if_pos (hmem.mpr ht)]
    simp [List.removeAll, ht]
  · rw [if_neg (mt hmem.mp ht)]
    simp [List.removeAll, ht, List.eraseDups_cons]

/-- No id of a registered store comes twice. -/
theorem Registered.nodup_ids {s : Store} (h : s.Registered) : s.ids.Nodup := by
  refine h.of_add (I := fun s => s.ids.Nodup) List.nodup_nil (fun s t hs _ => ?_) fun _ _ hs => hs
  rw [ids_add]
  split
  · exact hs
  · rename_i hnot
    refine List.nodup_append.mpr ⟨hs, by simp, fun x hx y hy hxy => hnot ?_⟩
    rw [← List.mem_singleton.mp hy, ← hxy]; exact hx

/-- The log of a registered store has just the definition of an id that the index has. -/
theorem Registered.filter_defines {s : Store} (h : s.Registered) (id : String) :
    s.templates.filter (Template.defines id) = (s.definition? id).toList := by
  refine h.of_add (I := fun s => s.templates.filter (Template.defines id) =
    (s.definition? id).toList) rfl (fun s t hs ht => ?_) fun _ _ hs => hs
  have hlog : (s.add t).templates = s.templates ++ [t] := rfl
  rw [hlog, List.filter_append, hs, definition?_add]
  by_cases hid : id = t.id ∧ t.isLayer = false
  · obtain ⟨rfl, hl⟩ := hid
    -- the id had no definition, or the template would have been refused
    have hnone : s.definition? t.id = none := by
      simpa [contains] using contains_eq_false_of_refusal? ht hl
    simp [hnone, hl, Template.defines]
  · have hdefines : Template.defines id t = false := by
      cases hl : t.isLayer with
      | true => simp [Template.defines, hl]
      | false =>
          have hne : (t.id == id) = false := beq_eq_false_iff_ne.mpr fun e => hid ⟨e.symm, hl⟩
          simp [Template.defines, hne]
    simp [hid, hdefines]

/-- The layers of a registered store are those of its log, sorted by their priority. -/
theorem Registered.layers_eq {s : Store} (h : s.Registered) (id : String) :
    s.layers id = (s.templates.filter (Template.layersOn id)).mergeSort
      fun t u => t.priority ≤ u.priority := by
  refine eq_of_sorted_of_filter_eq (h.indexed.ascending_layers id) (ascending_mergeSort _)
    fun p => ?_
  rw [h.indexed.filter_layers, filter_mergeSort_priority, List.filter_filter]
  refine List.filter_congr fun t _ => ?_
  rw [Template.layersOn, Bool.and_comm]

/-- **A registered store shows the templates it keeps.** -/
theorem Registered.shows {s : Store} (h : s.Registered) : s.Shows s.templates where
  templates_eq := rfl
  length_filter_le id := by
    rw [h.filter_defines]
    cases s.definition? id <;> simp
  get_eq id := by
    rw [← List.head?_filter, h.filter_defines, get]
    cases s.definition? id <;> rfl
  contains_eq id := by
    have hany : s.templates.any (Template.defines id) =
        !(s.templates.filter (Template.defines id)).isEmpty := by
      rw [Bool.eq_iff_iff]; simp
    rw [hany, h.filter_defines, contains]
    cases s.definition? id <;> rfl
  layers_eq := h.layers_eq
  hasLayers_eq id := by
    have hempty : ∀ ts : List Template,
        (ts.mergeSort fun t u => t.priority ≤ u.priority).isEmpty = ts.isEmpty := fun ts => by
      rw [Bool.eq_iff_iff, List.isEmpty_iff_length_eq_zero, List.isEmpty_iff_length_eq_zero,
        List.length_mergeSort]
    rw [hasLayers, h.layers_eq, hempty, Bool.eq_iff_iff]
    simp
  ids_eq := h.ids_eq

/-! ### Receipts -/

/-- The receipts of a batch count on from the templates there are. -/
theorem value_addAll (s : Store) (ts : List Template) :
    (s.addAll ts).2.value = ts.mapIdx fun i t => ⟨t.id, i + s.templates.length, t.mode?⟩ := by
  induction ts generalizing s with
  | nil => rfl
  | cons t ts ih =>
      have hlength : (s.add t).templates.length = s.templates.length + 1 := by simp [add]
      rw [addAll, List.mapIdx_cons, Nat.zero_add]
      change s.handle t :: ((s.add t).addAll ts).2.value = _
      rw [ih, hlength]
      refine congrArg (s.handle t :: ·) (List.mapIdx_eq_mapIdx_iff.mpr fun i hi => ?_)
      rw [Nat.add_assoc, Nat.add_comm 1]

/-- Receipts count on from the number of templates in the log. -/
theorem value_registerAll {s after : Store} {ts : List Template} {handles : Noted (List Handle)}
    (h : s.registerAll ts = .ok (after, handles)) :
    handles.value = ts.mapIdx fun i t => ⟨t.id, i + s.templates.length, t.mode?⟩ := by
  rw [registerAll] at h
  split at h
  · cases h
  · split at h
    · rename_i hempty
      cases h
      rw [List.isEmpty_iff.mp hempty]; rfl
    · cases h
      exact value_addAll s ts

/-- A batch makes a new generation, unless it is empty. -/
theorem generation_registerAll {s after : Store} {ts : List Template}
    {handles : Noted (List Handle)} (h : s.registerAll ts = .ok (after, handles)) :
    after.generation = s.generation + if ts = [] then 0 else 1 := by
  rw [registerAll] at h
  split at h
  · cases h
  · split at h
    · rename_i hempty
      cases h
      rw [if_pos (List.isEmpty_iff.mp hempty)]; rfl
    · rename_i hempty
      cases h
      rw [if_neg (by simpa using hempty)]

/-! ### Calls one after the other -/

/-- The store after calls, and for each call that was accepted its templates and the receipts for
them.  A refused call changes nothing. -/
def serve (s : Store) : List Registration → Store × List (List Template × List Handle)
  | [] => (s, [])
  | call :: calls =>
    match s.registerAll call.templates with
    | .error _ => s.serve calls
    | .ok (after, handles) =>
      let (last, accepted) := after.serve calls
      (last, (call.templates, handles.value) :: accepted)

/-- What calls add to a store, said of the batches accepted. -/
structure Served (s : Store) (accepted : List (List Template × List Handle)) (last : Store) :
    Prop where
  /-- The store came about by registering batches. -/
  registered : last.Registered
  /-- The accepted batches are added to the log. -/
  templates : last.templates = s.templates ++ accepted.flatMap (·.1)
  /-- The receipts count on along the log. -/
  handles : accepted.flatMap (·.2) =
    (accepted.flatMap (·.1)).mapIdx fun i t => ⟨t.id, i + s.templates.length, t.mode?⟩
  /-- There is one receipt for each template. -/
  length : ∀ batch ∈ accepted, batch.2.length = batch.1.length
  /-- The generation counts the batches that are not empty. -/
  generation : last.generation = s.generation + (accepted.filter fun batch => batch.1 ≠ []).length

/-- One call more in front of others. -/
theorem Served.cons {s after last : Store} {ts : List Template} {handles : Noted (List Handle)}
    {accepted : List (List Template × List Handle)}
    (hreg : s.registerAll ts = .ok (after, handles)) (h : after.Served accepted last) :
    s.Served ((ts, handles.value) :: accepted) last where
  registered := h.registered
  templates := by
    rw [h.templates, templates_registerAll hreg, List.flatMap_cons, List.append_assoc]
  handles := by
    rw [List.flatMap_cons, List.flatMap_cons, List.mapIdx_append, h.handles, value_registerAll hreg,
      templates_registerAll hreg]
    refine congrArg (_ ++ ·) (List.mapIdx_eq_mapIdx_iff.mpr fun i hi => ?_)
    rw [List.length_append, Nat.add_assoc, Nat.add_comm ts.length]
  length := by
    refine List.forall_mem_cons.mpr ⟨?_, h.length⟩
    rw [value_registerAll hreg, List.length_mapIdx]
  generation := by
    rw [h.generation, generation_registerAll hreg]
    by_cases hts : ts = []
    · simp [hts]
    · simp [hts, Nat.add_assoc, Nat.add_comm 1]

/-- Every row of calls leaves a registered store, and each answer is right for the log before it. -/
theorem Registered.served {s : Store} (h : s.Registered) (calls : List Registration) :
    s.Served (s.serve calls).2 (s.serve calls).1 := by
  induction calls generalizing s with
  | nil => exact ⟨h, by simp [serve], rfl, nofun, rfl⟩
  | cons call calls ih =>
      rw [serve]
      split
      · exact ih h
      · rename_i after handles hreg
        exact .cons hreg (ih (.batch h hreg))

/-- **A store refines its log.**  Let calls for one template or for a batch be made of the empty
store, and let the log be the batches that were accepted.  The store then answers what the log says,
whatever it is asked; there is one receipt for each template of an accepted batch, and the receipts
of all batches together count the templates of the log; and the generation counts the accepted
batches that are not empty. -/
theorem serve_shows (calls : List Registration) :
    let (s, accepted) := Store.empty.serve calls
    let log := accepted.flatMap (·.1)
    s.Shows log ∧
      (∀ batch ∈ accepted, batch.2.length = batch.1.length) ∧
      accepted.flatMap (·.2) = (log.mapIdx fun i t => ⟨t.id, i, t.mode?⟩) ∧
      s.generation = (accepted.filter fun batch => batch.1 ≠ []).length := by
  have h := Registered.empty.served calls
  have hlog : (Store.empty.serve calls).1.templates = (Store.empty.serve calls).2.flatMap (·.1) :=
    h.templates
  refine ⟨hlog ▸ h.registered.shows, h.length, h.handles, ?_⟩
  rw [h.generation]
  exact Nat.zero_add _

end Store

end MarkupTemplates
