import MarkupTemplates.Proofs.Compile.Requests
import MarkupTemplates.Proofs.Session.Runs

/-!
# Compilations end

Whatever is registered, a session has an answer for every id: no compilation goes on for ever, and
none waits for itself.
-/

namespace MarkupTemplates

/-- The progress that a compilation with a memo begins with. -/
def Memo.progress (m : Memo) : Progress := ⟨m.outcomes, m.resolutions, m.hits, []⟩

theorem Store.idle_nil (s : Store) : s.idle [] = s.ids.length := by
  have hall : ∀ v ∈ s.graph.vertices, (!([] : List String).contains v.id) = true := fun _ _ => rfl
  rw [idle, Graph.offWay, List.filter_eq_self.mpr hall, graph, ids, List.length_map,
    List.length_map]

namespace Workspace

/-- **Compilations end and never wait for themselves.**  In any reachable workspace, let a session
compile an id, with whatever it remembers.  Compiling without any guard against asking for an id
that is being compiled has an answer, with no more requests nested than the store has ids and one:
the one that the session gives.  All the while, the ids that wait for a request and the id asked for
are a way from the id that is compiled: each depends directly on the one that asks for it, and none
comes twice. -/
theorem compileWithin_eq_answer {w : Workspace} (h : w.Reachable) {i : Nat} {session : Session}
    (hi : w.sessions[i]? = some session) (id : String) {depth : Nat}
    (hdepth : (w.storeOf session).ids.length < depth) :
    let s := w.storeOf session
    let m := (session.memo.refresh s).value
    ∃ outcome q requests,
      ((compileWithin s depth [] id).run []).run m.progress = some ((outcome, requests), q) ∧
      (compileIn s [] id).run m.progress = some (outcome, q) ∧
      w.answer i (.compile id) = .outcome outcome ∧
      ∀ r ∈ requests, s.graph.IsWay id (r.id :: r.waiting) := by
  intro s m
  have hw : w.Coherent := h.coherent
  have hs : s.Indexed := hw.indexed_storeOf session
  have hm := (hw.serves session (List.mem_of_getElem? hi)).refresh
  have hremembers : s.Remembers m.outcomes := by
    have := hm.1.remembers
    rwa [hm.2] at this
  obtain ⟨q, hrun, -⟩ := hs.answers_compileIn id [] Graph.leadsTo_nil m.progress hremembers
  obtain ⟨requests, htrace, hways⟩ :=
    hs.traces_compileIn id depth [] (s.idle_nil ▸ hdepth) Graph.leadsTo_nil
      (Graph.isWay_singleton _ id) [] m.progress _ q hrun
  refine ⟨s.resolve id, q, requests, ?_, hrun, hw.answer_compile hi id, hways⟩
  rw [← List.append_nil requests]; exact htrace

/-- A root that includes a copy of another root, whose layer includes the first. -/
theorem compileWithin_eq_answer_circle :
    let calls : List (Nat × Operation) :=
      [(0, .registerAll [⟨"a", .root [.element "include" ⟨[("template", "b")]⟩ []], .inline⟩,
          ⟨"b", .copy "c" [], .inline⟩, ⟨"c", .root [.text "x"], .inline⟩]), (0, .compile "a"),
        (0, .register ⟨"c", .layer "c" 1 [⟨⟨"p", []⟩, .replace,
          [.element "include" ⟨[("template", "a")]⟩ []], false, ⟨0, 0⟩⟩], .inline⟩)]
    let w := (start {}).run calls
    w.stores.map (·.ids) = [["a", "b", "c"]] ∧ ∃ session, w.sessions[0]? = some session ∧
      ∃ outcome q requests,
        ((compileWithin (w.storeOf session) 4 [] "a").run []).run
          (session.memo.refresh (w.storeOf session)).value.progress =
            some ((outcome, requests), q) ∧
        w.answer 0 (.compile "a") = .outcome outcome ∧
        ∀ r ∈ requests, (w.storeOf session).graph.IsWay "a" (r.id :: r.waiting) := by
  intro calls w
  obtain ⟨session, hsession⟩ : ∃ session, w.sessions[0]? = some session := ⟨_, rfl⟩
  have hdepth : (w.storeOf session).ids.length < 4 := by
    have hids : (w.storeOf session).ids = ["a", "b", "c"] := by cases hsession; rfl
    rw [hids]; decide
  obtain ⟨outcome, q, requests, hrun, -, hanswer, hways⟩ :=
    compileWithin_eq_answer ⟨{}, calls, rfl⟩ hsession "a" hdepth
  exact ⟨rfl, session, hsession, outcome, q, requests, hrun, hanswer, hways⟩

end Workspace

end MarkupTemplates
