import Mathlib.Logic.ExistsUnique
import MarkupTemplates.Proofs.Session.Runs

/-!
# Memos are transparent

Whatever was asked of the sessions of a workspace before, in whichever order, a session answers for
an id what the current state of its store alone determines: the one solution of the equations that
say how an id is put together from those it depends on.
-/

namespace MarkupTemplates.Workspace

/-- **Transparency of memos.**  After any run, the equations of compiling have exactly one solution
for the store of a session, and the session answers with this solution, for single ids and for all
of them.  No further run that leaves the store alone changes an answer, whatever it compiles,
forgets or registers elsewhere. -/
theorem answers_solve_of_reachable {w : Workspace} (h : w.Reachable) {i : Nat} {session : Session}
    (hi : w.sessions[i]? = some session) :
    let s := w.storeOf session
    (∃! R, s.Solves R) ∧
      (∀ R, s.Solves R →
        (∀ id, w.answer i (.compile id) = .outcome (R id)) ∧
        w.answer i .compileAll = .outcomes ((Memo.order s).value.map fun id => (id, R id))) ∧
      w.answer i .compileOrder = .order s.graph.compileOrder ∧
      ∀ more, w.Spares session.store more →
        ∀ id, (w.run more).answer i (.compile id) = w.answer i (.compile id) := by
  intro s
  have hw : w.Coherent := h.coherent
  have hs : s.Indexed := hw.indexed_storeOf session
  refine ⟨⟨s.resolve, hs.solves_resolve, fun R hR => hs.solves_iff.mp hR⟩, fun R hR => ?_,
    hw.answer_compileOrder hi, fun more hmore id => ?_⟩
  · obtain rfl := hs.solves_iff.mp hR
    exact ⟨hw.answer_compile hi, hw.answer_compileAll hi⟩
  · obtain ⟨session', hi', hstore⟩ := hw.run_keeps hi hmore
    rw [(hw.run more).answer_compile hi', hw.answer_compile hi, hstore]

/-- A layer registered on a fork changes no answer of the first session. -/
theorem answers_solve_of_reachable_fork :
    let calls : List (Nat × Operation) :=
      [(0, .register ⟨"a", .root [.text "x"], .inline⟩), (0, .compile "a"), (0, .fork)]
    let more : List (Nat × Operation) :=
      [(1, .register ⟨"a", .layer "a" 1 [], .inline⟩), (0, .invalidate), (1, .compileAll)]
    let w := (start {}).run calls
    (∃ session, w.sessions[0]? = some session ∧ w.Spares session.store more ∧
      (∃! R, (w.storeOf session).Solves R)) ∧
    (w.run more).stores.map (·.templates.length) = [1, 2] ∧
    ∀ id, (w.run more).answer 0 (.compile id) = w.answer 0 (.compile id) := by
  intro calls more w
  have hsession : w.sessions[0]? = some _ := rfl
  have hspares : w.Spares 0 more := by
    refine ⟨fun _ other hother => ?_, nofun, nofun, trivial⟩
    cases hother; decide
  obtain ⟨hR, -, -, hmore⟩ := answers_solve_of_reachable ⟨{}, calls, rfl⟩ hsession
  exact ⟨⟨_, hsession, hspares, hR⟩, rfl, hmore more hspares⟩

end MarkupTemplates.Workspace
