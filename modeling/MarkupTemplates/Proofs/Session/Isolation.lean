import MarkupTemplates.Proofs.Compile.Agreement
import MarkupTemplates.Proofs.Session.Runs

/-!
# Templates that an id does not reach

An id reaches itself, the ids that its templates copy and include, and so on; ids without a
definition are reached like others.  `answer_compile_step_registerAll`: a batch in which no template
has an id that is reached changes nothing about the outcome of the id, for any session.
-/

namespace MarkupTemplates.Workspace

theorem step_registerAll {w : Workspace} {i : Nat} {session : Session} {ts : List Template}
    {after : Store} {handles : Noted (List Handle)} (hi : w.sessions[i]? = some session)
    (hreg : (w.storeOf session).registerAll ts = .ok (after, handles)) :
    w.step i (.registerAll ts) = w.setStore session after := by
  rw [step, perform, hi]
  simp only [registerAll, hreg]
  rfl

/-- **Isolation.**  In any reachable workspace, let session `i` register a batch that its store
accepts, and let no template of the batch have an id that `id` reaches in this store.  Then all
sessions, also those on the same store, answer for `id` what they answered before: the same tree
with the same contributors, or the same error. -/
theorem answer_compile_step_registerAll {w : Workspace} (h : w.Reachable) {i : Nat}
    {session : Session} {ts : List Template} {after : Store} {handles : Noted (List Handle)}
    {id : String} (hi : w.sessions[i]? = some session)
    (hreg : (w.storeOf session).registerAll ts = .ok (after, handles))
    (hts : ∀ t ∈ ts, ¬ (w.storeOf session).graph.Reaches id t.id) (j : Nat) :
    (w.step i (.registerAll ts)).answer j (.compile id) = w.answer j (.compile id) := by
  have hw : w.Coherent := h.coherent
  have hw' : (w.step i (.registerAll ts)).Coherent := hw.step i _
  have hstep := step_registerAll hi hreg
  have hsessions : (w.step i (.registerAll ts)).sessions = w.sessions := by rw [hstep]; rfl
  cases hj : w.sessions[j]? with
  | none => rw [answer, answer, perform, perform, hsessions, hj]
  | some other =>
      rw [hw'.answer_compile (hsessions ▸ hj), hw.answer_compile hj, hstep]
      by_cases hk : session.store = other.store
      · have hlt := hw.store_lt session (List.mem_of_getElem? hi)
        have hbefore : w.storeOf other = w.storeOf session := by simp only [storeOf, hk]
        rw [storeOf_setStore after hlt hk, hbefore]
        -- the store after the batch holds the same under every id that is reached
        refine congrArg _ ((hw.indexed_storeOf session).resolve_congr
          (Store.Registered.batch (hw.registered_storeOf session) hreg).indexed id fun x hx => ?_)
        exact Store.sameAt_registerAll hreg fun t ht e => hts t ht (e ▸ hx)
      · rw [storeOf_setStore_of_ne after hk]

/-- A copy of a template and two templates that include each other change nothing for it. -/
theorem answer_compile_step_registerAll_copy :
    let calls : List (Nat × Operation) :=
      [(0, .register ⟨"a", .root [.text "x"], .inline⟩), (0, .share {})]
    let batch : List Template :=
      [⟨"b", .copy "a" [], .inline⟩,
        ⟨"c", .root [.element "include" ⟨[("template", "d")]⟩ []], .inline⟩,
        ⟨"d", .root [.element "include" ⟨[("template", "c")]⟩ []], .inline⟩]
    let w := (start {}).run calls
    (w.step 0 (.registerAll batch)).stores.map (·.templates.length) = [4] ∧
    ∀ j, (w.step 0 (.registerAll batch)).answer j (.compile "a") = w.answer j (.compile "a") := by
  intro calls batch w
  let s := w.storeOf ⟨{}, 0, { store := .empty }⟩
  have hnone : s.graph.dependencies "a" = [] := by decide
  have hother : ∀ id ∈ batch.map (·.id), "a" ≠ id := by decide
  have hreaches : ∀ t ∈ batch, ¬ s.graph.Reaches "a" t.id := by
    intro t ht hr
    rcases Relation.ReflTransGen.cases_head hr with he | ⟨d, hd, -⟩
    · exact hother t.id (List.mem_map_of_mem ht) he
    · rw [Graph.Needs, hnone] at hd; cases hd
  have hw : w.Reachable := ⟨{}, calls, rfl⟩
  exact ⟨rfl, answer_compile_step_registerAll hw rfl rfl hreaches⟩

end MarkupTemplates.Workspace
