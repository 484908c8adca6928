import MarkupTemplates.Proofs.Compile.Success

/-!
# Stores that agree on what matters to an id

Two stores may differ and yet give an id the same outcome.

* `Indexed.resolve_congr`: stores that hold the same under every id that `id` reaches give it the
  same outcome, error included.
* `Indexed.resolve_eq_ok_iff`: stores with the same templates, the layers of one id and priority in
  the same order, give every id the same compiled template, or both none.  The errors may differ,
  since the check meets the dependencies of an id in the order of registration.
-/

namespace MarkupTemplates

namespace Store

/-! ### The same below an id -/

/-- The stores hold the same under an id. -/
structure SameAt (s s' : Store) (id : String) : Prop where
  /-- The index is the same. -/
  slot : s'.slot? id = s.slot? id
  /-- The templates of the id name the same dependencies, in the same order. -/
  dependencies : s'.dependencies id = s.dependencies id

namespace SameAt

variable {s s' : Store} {id : String} (h : s.SameAt s' id)

include h

theorem definition? : s'.definition? id = s.definition? id := by
  rw [Store.definition?, Store.definition?, h.slot]

theorem layers : s'.layers id = s.layers id := by rw [Store.layers, Store.layers, h.slot]

theorem knows : s'.knows id = s.knows id := by rw [Store.knows, Store.knows, h.slot]

end SameAt

/-- Templates of other ids change nothing under an id. -/
theorem sameAt_foldl_add {id : String} {ts : List Template} (h : ∀ t ∈ ts, t.id ≠ id) (s : Store) :
    s.SameAt (ts.foldl add s) id := by
  induction ts generalizing s with
  | nil => exact ⟨rfl, rfl⟩
  | cons t ts ih =>
      have hne : t.id ≠ id := h t (by simp)
      obtain ⟨hslot, hdep⟩ := ih (fun u hu => h u (List.mem_cons_of_mem _ hu)) (s.add t)
      refine ⟨?_, ?_⟩
      · rw [List.foldl_cons, hslot, slot?_add, if_neg (Ne.symm hne)]
      · rw [List.foldl_cons, hdep]
        simp [Store.dependencies, add, hne]

/-- A batch changes nothing at an id that none of its templates has. -/
theorem sameAt_registerAll {s after : Store} {id : String} {ts : List Template}
    {handles : Noted (List Handle)} (hreg : s.registerAll ts = .ok (after, handles))
    (h : ∀ t ∈ ts, t.id ≠ id) : s.SameAt after id := by
  obtain ⟨-, ⟨rfl, -⟩ | rfl⟩ := registerAll_eq hreg
  · exact ⟨rfl, rfl⟩
  · exact ⟨(sameAt_foldl_add h s).slot, (sameAt_foldl_add h s).dependencies⟩

/-- Stores that are the same wherever an id leads have graphs that agree below it. -/
theorem Indexed.agrees {s s' : Store} (hs : s.Indexed) (hs' : s'.Indexed) {id : String}
    (h : ∀ x, s.graph.Reaches id x → s.SameAt s' x) : s.graph.Agrees s'.graph id := by
  intro x hx
  rw [hs.graph_dependencies, hs'.graph_dependencies, graph_isDefined, graph_isDefined,
    graph_isKnown, graph_isKnown]
  exact ⟨(h x hx).dependencies, by rw [(h x hx).definition?], (h x hx).knows⟩

/-- **The outcome of an id depends only on what the store holds under the ids it reaches.** -/
theorem Indexed.resolve_congr {s s' : Store} (hs : s.Indexed) (hs' : s'.Indexed) (id : String) :
    (∀ x, s.graph.Reaches id x → s.SameAt s' x) → s'.resolve id = s.resolve id := by
  induction id using s.graph.dependency_induction with
  | step id ih =>
      intro h
      have hsame := h id .refl
      rw [hs.solves_resolve id, hs'.solves_resolve id, hsame.knows]
      split
      · calc assemble (m := Id) s' s'.resolve id
            = assemble (m := Id) s s'.resolve id :=
              assemble_congr _ (Graph.checkFrom_congr (hs.agrees hs' h)) hsame.definition?
                hsame.layers
          -- what a dependency reaches, the id reaches too
          _ = assemble (m := Id) s s.resolve id :=
              Simulation.equal.assemble hs fun hsound d hd =>
                ih hsound d hd fun x hx => h x (.head hd hx)
      · rfl

/-! ### The same templates in another order -/

/-- The stores have the same templates, and the layers of one id and priority in the same order. -/
structure SameLog (s s' : Store) : Prop where
  /-- The templates are the same. -/
  perm : s.templates.Perm s'.templates
  /-- The layers of one id and priority come in the same order. -/
  layers : ∀ (id : String) (p : Int),
    (s.templates.filter fun t => t.isLayer && t.id == id && t.priority == p) =
      s'.templates.filter fun t => t.isLayer && t.id == id && t.priority == p

namespace SameLog

variable {s s' : Store} (h : s.SameLog s') (hs : s.Indexed) (hs' : s'.Indexed)

include h hs hs'

theorem definition?_eq (id : String) : s'.definition? id = s.definition? id := by
  refine Option.ext fun t => ?_
  rw [hs'.definition?_eq_some_iff, hs.definition?_eq_some_iff, h.perm.mem_iff]

/-- With the same log an id has the same layers, for those of one priority keep their order. -/
theorem layers_eq (id : String) : s'.layers id = s.layers id := by
  refine eq_of_sorted_of_filter_eq (hs'.ascending_layers id) (hs.ascending_layers id) fun p => ?_
  rw [hs'.filter_layers, hs.filter_layers, h.layers]

theorem knows_eq (id : String) : s'.knows id = s.knows id := by
  rw [Bool.eq_iff_iff, hs'.knows_iff, hs.knows_iff]
  simp only [h.perm.mem_iff]

theorem needs_eq : s'.graph.Needs = s.graph.Needs := by
  funext a b
  rw [eq_iff_iff, hs'.needs_iff, hs.needs_iff]
  simp only [h.perm.mem_iff]

/-- With the same log the same ids are sound. -/
theorem sound_iff (id : String) : s'.graph.Sound id ↔ s.graph.Sound id := by
  simp only [Graph.Sound, Graph.Reaches, h.needs_eq hs hs', graph_isDefined,
    h.definition?_eq hs hs']

end SameLog

end Store

/-! ### The same success -/

/-- Both succeed with the same, or both fail. -/
def Simulation.sameSuccess : Simulation Id Id where
  rel x y := ∀ a, x = .ok a ↔ y = .ok a
  answer _ _ := .rfl
  bind h hf b := by simp only [bind_eq_ok_iff, h, hf]

/-- **The order of registration makes no difference to what compiles, and to what.** -/
theorem Store.Indexed.resolve_eq_ok_iff {s s' : Store} (hs : s.Indexed) (hs' : s'.Indexed)
    (h : s.SameLog s') (id : String) : ∀ c, s'.resolve id = .ok c ↔ s.resolve id = .ok c := by
  induction id using s.graph.dependency_induction with
  | step id ih =>
      intro c
      rw [hs.solves_resolve id, hs'.solves_resolve id, h.knows_eq hs hs']
      split
      · by_cases hsound : s.graph.Sound id
        · have hcheck := Graph.checkFrom_eq_ok_iff.mpr hsound
          have hcheck' := Graph.checkFrom_eq_ok_iff.mpr ((h.sound_iff hs hs' id).mpr hsound)
          rw [assemble_congr (s := s) _ (hcheck'.trans hcheck.symm) (h.definition?_eq hs hs' id)
            (h.layers_eq hs hs' id)]
          exact Simulation.sameSuccess.assemble hs (fun _ d hd => ih hsound d hd) c
        · -- both checks fail, each perhaps with an error of its own
          have fails : ∀ {t : Store} {f : String → Outcome}, ¬ t.graph.Sound id →
              assemble (m := Id) t f id ≠ .ok c := by
            intro t f ht
            cases hcheck : t.graph.checkFrom id with
            | ok _ => exact absurd (Graph.checkFrom_eq_ok_iff.mp hcheck) ht
            | error e =>
                rw [assemble_of_check_error _ hcheck]
                exact nofun
          have hsound' := mt (h.sound_iff hs hs' id).mp hsound
          exact iff_of_false (fails hsound') (fails hsound)
      · exact .rfl

end MarkupTemplates
