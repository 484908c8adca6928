import MarkupTemplates.Proofs.Compile.Simulation

/-!
# Compiling without a memory

`Store.resolve` compiles an id by compiling anew every id it depends on, with no memory of any kind.
The recursion carries the ids that wait for the one at hand, so that it ends; in a store whose index
says what its log says, no id ever waits for itself, and `resolve` is the one solution of the
equations that say how an id is put together from those it depends on (`Store.Solves`,
`Store.Indexed.solves_iff`).
-/

namespace MarkupTemplates

/-- The outcome of an id of a store while the ids in `way` wait for it. -/
def Store.resolveFrom (s : Store) (way : List String) (id : String) : Outcome :=
  if _hk : s.knows id = true then
    if _hw : id ∈ way then .error (.cycle (Graph.circle id way))
    else assemble (m := Id) s (fun target => resolveFrom s (id :: way) target) id
  else .error (.notFound id)
termination_by s.idle way
decreasing_by exact Store.idle_lt _hk _hw

/-- The outcome of an id of a store. -/
def Store.resolve (s : Store) (id : String) : Outcome := s.resolveFrom [] id

/-- The outcomes `R` are put together from each other: the error that there is no such id for an id
that the store does not know, and what `assemble` makes of `R` for any other. -/
def Store.Solves (s : Store) (R : String → Outcome) : Prop :=
  ∀ id, R id = if s.knows id then assemble (m := Id) s R id else .error (.notFound id)

/-- Equal outcomes. -/
def Simulation.equal : Simulation Id Id where
  rel x y := x = y
  answer _ := rfl
  bind h hf := by rw [h, funext hf]

namespace Store.Indexed

variable {s : Store} (h : s.Indexed) {id : String}

include h

/-- It makes no difference which ids wait, as long as they are sound and depend on the id. -/
theorem resolveFrom_eq_resolve (id : String) :
    ∀ way : List String, s.graph.LeadsTo way id → s.resolveFrom way id = s.resolve id := by
  induction id using s.graph.dependency_induction with
  | step id ih =>
      intro way hway
      rw [resolve, resolveFrom, resolveFrom]
      by_cases hk : s.knows id = true
      · rw [dif_pos hk, dif_pos hk, dif_neg hway.not_mem, dif_neg (by simp)]
        refine Simulation.equal.assemble h fun hs d hd => ?_
        exact (ih hs d hd _ (hway.cons hs hd)).trans
          (ih hs d hd _ (Graph.leadsTo_nil.cons hs hd)).symm
      · rw [dif_neg hk, dif_neg hk]

/-- **The outcomes of the ids are put together from each other.** -/
theorem solves_resolve : s.Solves s.resolve := by
  intro id
  rw [resolve, resolveFrom]
  by_cases hk : s.knows id = true
  · rw [dif_pos hk, dif_neg (by simp), if_pos hk]
    refine Simulation.equal.assemble h fun hs d hd => ?_
    exact h.resolveFrom_eq_resolve d [id] (Graph.leadsTo_nil.cons hs hd)
  · rw [dif_neg hk, if_neg hk]

/-- A known id resolves to what is put together of what the others resolve to. -/
theorem resolve_of_knows (hk : s.knows id = true) :
    s.resolve id = assemble (m := Id) s s.resolve id := by
  rw [h.solves_resolve id, if_pos hk]

/-- **The equations of compiling have one solution.** -/
theorem solves_iff {R : String → Outcome} : s.Solves R ↔ R = s.resolve := by
  constructor
  · intro hR
    funext id
    induction id using s.graph.dependency_induction with
    | step id ih =>
        rw [hR id, h.solves_resolve id]
        split
        · exact Simulation.equal.assemble h fun hs d hd => ih hs d hd
        · rfl
  · rintro rfl
    exact h.solves_resolve

end Store.Indexed

end MarkupTemplates
