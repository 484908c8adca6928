import MarkupTemplates.Proofs.Compile.Resolve
import MarkupTemplates.Session.Basic

/-!
# Compiling with a memory gives what compiling without one gives

A list of outcomes is *right* for a store when each outcome in it is the one that `Store.resolve`
gives (`Store.Remembers`).  From right outcomes `compileIn` never asks for a busy id, answers what
`resolve` gives, and leaves right outcomes behind (`Store.Indexed.answers_compileIn`).

A memo *serves* a store (`Memo.Serves`) when its outcomes are right for the state it is for, and
that state is the current one unless the current generation is later.  Whatever a memo that serves
the current store is asked for, it answers as the store without a memory would, and it serves the
store still; it goes on serving the store when a batch is registered (`Memo.Serves.registerAll`).
-/

namespace MarkupTemplates

/-! ### One step of compiling -/

section Run

variable {s : Store} {busy : List String} {id : String} {p : Progress}

/-- An unknown id is answered at once, and nothing is remembered of it. -/
theorem compileIn_of_unknown (hk : ¬ s.knows id = true) :
    (compileIn s busy id).run p = some (.error (.notFound id), p) := by
  rw [compileIn, dif_neg hk]; rfl

/-- An outcome that is remembered is the answer, and counts as a hit. -/
theorem compileIn_of_lookup (hk : s.knows id = true) {outcome : Outcome}
    (hl : p.outcomes.lookup id = some outcome) :
    (compileIn s busy id).run p = some (outcome, p.hit) := by
  rw [compileIn, dif_pos hk, StateT.run_bind]
  simp only [StateT.run_get, Option.pure_def, Option.bind_eq_bind, Option.bind_some, hl]
  rfl

/-- An id without an outcome is put together while it is busy, and its outcome is remembered. -/
theorem compileIn_of_assemble (hk : s.knows id = true) (hl : p.outcomes.lookup id = none)
    (hb : id ∉ busy) {outcome : Outcome} {q : Progress}
    (h : (assemble s (fun target => ExceptT.mk (compileIn s (id :: busy) target)) id).run.run
      (p.begin id) = some (outcome, q)) :
    (compileIn s busy id).run p = some (outcome, q.finish id outcome) := by
  rw [compileIn, dif_pos hk, StateT.run_bind]
  simp only [StateT.run_get, Option.pure_def, Option.bind_eq_bind, Option.bind_some, hl,
    dif_neg hb, StateT.run_bind, StateT.run_modify, h]
  rfl

end Run

namespace Store

/-! ### Right outcomes -/

/-- The outcomes are those of the store. -/
def Remembers (s : Store) (outcomes : List (String × Outcome)) : Prop :=
  ∀ id outcome, outcomes.lookup id = some outcome → outcome = s.resolve id

theorem remembers_nil (s : Store) : s.Remembers [] := fun _ _ h => by cases h

/-- What an id resolves to may be remembered. -/
theorem Remembers.cons {s : Store} {outcomes : List (String × Outcome)}
    (h : s.Remembers outcomes) (id : String) : s.Remembers ((id, s.resolve id) :: outcomes) := by
  intro d outcome hd
  rw [List.lookup_cons] at hd
  split at hd
  · rename_i hid
    cases hd; rw [beq_iff_eq.mp hid]
  · exact h d outcome hd

/-- From right outcomes the computation answers `r` and leaves right outcomes. -/
def Answers (s : Store) {α : Type} (x : Run α) (r : α) : Prop :=
  ∀ p : Progress, s.Remembers p.outcomes →
    ∃ p', x.run p = some (r, p') ∧ s.Remembers p'.outcomes

/-- A computation with a memory, and what it answers. -/
def memory (s : Store) : Simulation Run Id where
  rel x y := s.Answers x.run y
  answer _ := fun p hp => ⟨p, rfl, hp⟩
  bind {α β x y f k} h hf := fun p hp => by
    obtain ⟨p₁, h₁, hp₁⟩ := h p hp
    have hrun : (x >>= f).run.run p = (ExceptT.bindCont f y).run p₁ := by
      change (x.run >>= ExceptT.bindCont f).run p = _
      rw [StateT.run_bind, h₁]; rfl
    cases y with
    | error e => exact ⟨p₁, hrun, hp₁⟩
    | ok a =>
        obtain ⟨p₂, h₂, hp₂⟩ := hf a p₁ hp₁
        exact ⟨p₂, hrun.trans h₂, hp₂⟩

/-- **Compiling with a memory** answers what compiling without one gives, while the busy ids are
on a sound way to the id. -/
theorem Indexed.answers_compileIn {s : Store} (h : s.Indexed) (id : String) :
    ∀ busy : List String, s.graph.LeadsTo busy id →
      s.Answers (compileIn s busy id) (s.resolve id) := by
  induction id using s.graph.dependency_induction with
  | step id ih =>
      intro busy hbusy p hp
      by_cases hk : s.knows id = true
      · cases hl : p.outcomes.lookup id with
        | some outcome =>
            rw [← hp id outcome hl]
            exact ⟨p.hit, compileIn_of_lookup hk hl, hp⟩
        | none =>
            -- the id is sound where its dependencies are compiled, so they may go on with it busy
            have hinner : s.graph.Sound id → ∀ d, s.graph.Needs id d →
                s.Answers (compileIn s (id :: busy) d) (s.resolve d) :=
              fun hs d hd => ih hs d hd (id :: busy) (hbusy.cons hs hd)
            have hsim := s.memory.assemble h hinner
            obtain ⟨q, hq, hqr⟩ := hsim (p.begin id) hp
            rw [← h.resolve_of_knows hk] at hq
            exact ⟨_, compileIn_of_assemble hk hl hbusy.not_mem hq, hqr.cons id⟩
      · rw [h.solves_resolve id, if_neg hk]
        exact ⟨p, compileIn_of_unknown hk, hp⟩

end Store

/-! ### Memos -/

namespace Memo

/-- The memo has right outcomes for some state of the store, and for the current one unless the
store counts a later generation now. -/
structure Serves (m : Memo) (s : Store) : Prop where
  /-- The outcomes are those of the state that the memo is for. -/
  remembers : m.store.Remembers m.outcomes
  /-- That state is not ahead of the current one. -/
  generation_le : m.store.generation ≤ s.generation
  /-- It is the current one if no batch has come since. -/
  current : m.store.generation = s.generation → m.store = s

variable {m : Memo} {s : Store}

theorem serves_reset (m : Memo) (s : Store) : (m.reset s).Serves s :=
  ⟨s.remembers_nil, Nat.le_refl _, fun _ => rfl⟩

theorem serves_new (s : Store) : ({ store := s } : Memo).Serves s :=
  ⟨s.remembers_nil, Nat.le_refl _, fun _ => rfl⟩

/-- A memo goes on serving a store that is registered with: it is for an earlier generation then. -/
theorem Serves.registerAll (h : m.Serves s) {after : Store} {ts : List Template}
    {handles : Noted (List Handle)} (hreg : s.registerAll ts = .ok (after, handles)) :
    m.Serves after := by
  obtain ⟨-, ⟨rfl, -⟩ | rfl⟩ := Store.registerAll_eq hreg
  · exact h
  · have hle := h.generation_le
    refine ⟨h.remembers, ?_, fun hgen => ?_⟩
    · exact Nat.le_succ_of_le hle
    · exact absurd (hgen ▸ hle) (Nat.not_succ_le_self _)

/-- A refreshed memo is for the current state. -/
theorem Serves.refresh (h : m.Serves s) :
    (m.refresh s).value.Serves s ∧ (m.refresh s).value.store = s := by
  rw [Memo.refresh]
  split
  · exact ⟨m.serves_reset s, rfl⟩
  · rename_i hnot
    have hle := h.generation_le
    exact ⟨h, h.current (by omega)⟩

/-- A memo for the current state answers as the store without a memory, and goes on serving it. -/
theorem Serves.compileHere (h : m.Serves s) (hm : m.store = s) (hs : s.Indexed) (id : String) :
    (m.compileHere id).1.value = s.resolve id ∧ (m.compileHere id).2.Serves s := by
  subst hm
  obtain ⟨p, hrun, hp⟩ :=
    hs.answers_compileIn id [] Graph.leadsTo_nil ⟨m.outcomes, m.resolutions, m.hits, []⟩ h.remembers
  rw [Memo.compileHere, hrun]
  exact ⟨rfl, hp, Nat.le_refl _, fun _ => rfl⟩

/-- **A memo that serves a store answers as the store without a memory would.** -/
theorem Serves.compile (h : m.Serves s) (hs : s.Indexed) (id : String) :
    (m.compile s id).1.value = s.resolve id ∧ (m.compile s id).2.Serves s :=
  h.refresh.1.compileHere h.refresh.2 hs id

theorem Serves.compileEach (h : m.Serves s) (hs : s.Indexed) (ids : List String) :
    (m.compileEach s ids).1.value = ids.map (fun id => (id, s.resolve id)) ∧
      (m.compileEach s ids).2.Serves s := by
  induction ids generalizing m with
  | nil => exact ⟨rfl, h⟩
  | cons id ids ih =>
      obtain ⟨hv, hserves⟩ := h.compile hs id
      obtain ⟨hvs, hserves'⟩ := ih hserves
      refine ⟨?_, hserves'⟩
      rw [List.map_cons, ← hv, ← hvs]; rfl

/-- A memo answers all ids as the store without a memory, and goes on serving it. -/
theorem Serves.compileAll (h : m.Serves s) (hs : s.Indexed) :
    (m.compileAll s).1.value = (order s).value.map (fun id => (id, s.resolve id)) ∧
      (m.compileAll s).2.Serves s :=
  h.refresh.1.compileEach hs (order s).value

end Memo

end MarkupTemplates
