import Mathlib
import MarkupTemplates.Proofs.Compile.Needed
import MarkupTemplates.Proofs.Session.Runs
import MarkupTemplates.Proofs.Template.Loading

/-!
# Failures show in dependents

An id that compiles depends, directly or not, only on ids that compile
(`answer_compile_of_reaches`).  So whatever is wrong with a template, a target that is missing, a
circle, a path that addresses nothing or a payload that does not fit, it keeps every id from
compiling that depends on the template.
-/

namespace MarkupTemplates.Workspace

/-- **Failures show in dependents.**  In any reachable workspace, let all includes in the templates
of a session's store name a template and have no children, at every depth of every content and
payload, as the includes of templates do that were loaded from a source.  If an id compiles for the
session, everything it reaches does; and if something that an id reaches fails, the id fails. -/
theorem answer_compile_of_reaches {w : Workspace} (h : w.Reachable) {i : Nat} {session : Session}
    (hi : w.sessions[i]? = some session)
    (hsound : ∀ t ∈ (w.storeOf session).templates, ∀ nodes ∈ t.parts, SoundIncludes nodes) :
    (∀ id d, (w.storeOf session).graph.Reaches id d →
      ((∃ c, w.answer i (.compile id) = .outcome (.ok c)) →
        ∃ c, w.answer i (.compile d) = .outcome (.ok c)) ∧
      ((∃ e, w.answer i (.compile d) = .outcome (.error e)) →
        ∃ e, w.answer i (.compile id) = .outcome (.error e))) ∧
      ∀ minify name source ts, readTemplates minify name source = .ok ts →
        ∀ t ∈ ts, ∀ nodes ∈ t.parts, SoundIncludes nodes := by
  have hw : w.Coherent := h.coherent
  have hs := hw.indexed_storeOf session
  refine ⟨fun id d hd => ?_, fun minify name source ts hts t ht nodes hnodes => ?_⟩
  · simp only [hw.answer_compile hi, Answer.outcome.injEq]
    have hreached : (∃ c, (w.storeOf session).resolve id = .ok c) →
        ∃ c, (w.storeOf session).resolve d = .ok c := fun ⟨_, hc⟩ =>
      hs.resolve_of_reaches (fun _ _ t ht _ => hsound t ht) hc hd
    refine ⟨hreached, fun ⟨e, he⟩ => ?_⟩
    cases hid : (w.storeOf session).resolve id with
    | error e' => exact ⟨e', rfl⟩
    | ok c =>
        obtain ⟨c', hc'⟩ := hreached ⟨c, hid⟩
        rw [he] at hc'; cases hc'
  · obtain ⟨tree, -, hall⟩ := readTemplates_parts hts
    exact (hall t ht nodes hnodes).1

/-- A root includes a copy of another root, and one more root a copy with a directive that addresses
nothing. -/
theorem answer_compile_of_reaches_include :
    let calls : List (Nat × Operation) :=
      [(0, .registerAll [
          ⟨"a", .root [.element "div" ⟨[]⟩ [.element "include" ⟨[("template", "b")]⟩ []]], .inline⟩,
          ⟨"b", .copy "c" [], .inline⟩, ⟨"c", .root [.text "x"], .inline⟩,
          ⟨"d", .root [.element "include" ⟨[("template", "e")]⟩ []], .inline⟩]),
        (0, .register ⟨"e", .copy "c" [⟨⟨"/p", [⟨.child, .named "p", []⟩]⟩, .remove, [], false,
          ⟨0, 0⟩⟩], .inline⟩)]
    let w := (start {}).run calls
    ∃ session, w.sessions[0]? = some session ∧
      (∀ t ∈ (w.storeOf session).templates, ∀ nodes ∈ t.parts, SoundIncludes nodes) ∧
      (w.storeOf session).graph.Reaches "a" "c" ∧
      (∃ c, w.answer 0 (.compile "a") = .outcome (.ok c)) ∧
      (∃ c, w.answer 0 (.compile "c") = .outcome (.ok c)) ∧
      (w.storeOf session).graph.Reaches "d" "e" ∧
      (∃ e, w.answer 0 (.compile "e") = .outcome (.error e)) ∧
      ∃ e, w.answer 0 (.compile "d") = .outcome (.error e) := by
  intro calls w
  obtain ⟨session, hsession⟩ : ∃ session, w.sessions[0]? = some session := ⟨_, rfl⟩
  have hneeds : ∀ pair ∈ [("a", "b"), ("b", "c"), ("d", "e")],
      (w.storeOf session).graph.Needs pair.1 pair.2 := by
    cases hsession
    unfold Graph.Needs
    decide
  have hsound : ∀ t ∈ (w.storeOf session).templates, ∀ nodes ∈ t.parts, SoundIncludes nodes := by
    have htemplates : (w.storeOf session).templates.flatMap Template.parts = [
        [.element "div" ⟨[]⟩ [.element "include" ⟨[("template", "b")]⟩ []]], [.text "x"],
        [.element "include" ⟨[("template", "e")]⟩ []], []] := by
      cases hsession; rfl
    intro t ht nodes hnodes
    have hmem := List.mem_flatMap.mpr ⟨t, ht, hnodes⟩
    rw [htemplates] at hmem
    simp only [List.mem_cons, List.not_mem_nil, or_false] at hmem
    rcases hmem with rfl | rfl | rfl | rfl
    all_goals simp [SoundIncludes, SoundInclude, includeTag, includeKey, Markup.Attributes.get?]
  have hac : (w.storeOf session).graph.Reaches "a" "c" :=
    .tail (.single (hneeds ("a", "b") (by simp))) (hneeds ("b", "c") (by simp))
  have hde : (w.storeOf session).graph.Reaches "d" "e" := .single (hneeds ("d", "e") (by simp))
  have hok : ∃ c, w.answer 0 (.compile "a") = .outcome (.ok c) := by
    refine ⟨⟨"a", [.element "div" ⟨[]⟩ [.text "x"]], [⟨"a", none, .inline⟩]⟩, ?_⟩
    cbv
  have herror : ∃ e, w.answer 0 (.compile "e") = .outcome (.error e) := by
    refine ⟨.targetNotFound "e" "/p", ?_⟩
    cbv
  have hall := (answer_compile_of_reaches ⟨{}, calls, rfl⟩ hsession hsound).1
  exact ⟨session, hsession, hsound, hac, hok, (hall "a" "c" hac).1 hok, hde, herror,
    (hall "d" "e" hde).2 herror⟩

end MarkupTemplates.Workspace
