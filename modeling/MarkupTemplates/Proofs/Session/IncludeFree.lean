import Mathlib
import MarkupTemplates.Proofs.Compile.Trees
import MarkupTemplates.Proofs.Session.Runs
import MarkupTemplates.Proofs.Template.Loading

/-!
# No include is left

Wherever the includes of a store stand, in the content of a root or in the payload of a directive,
at whichever depth, a compiled tree has none of them left, as long as each names a template.  The
templates of a source are of this kind.
-/

namespace MarkupTemplates

open Markup (Node Everywhere)

/-- The rule that asks for nothing. -/
def TreeRule.any : TreeRule where
  tag _ := True
  attributes _ := True
  text _ := True
  empty := trivial
  merge _ _ := trivial

theorem TreeRule.holds_any (n : Node) : TreeRule.any.Holds n := by
  cases n with
  | text content => trivial
  | element tag attributes children => exact ⟨trivial, trivial⟩

theorem Store.Indexed.includeFree_resolve {s : Store} (hs : s.Indexed)
    (hparts : ∀ t ∈ s.templates, ∀ nodes ∈ t.parts, NamedIncludes nodes) {id : String}
    {c : Compiled} (hc : s.resolve id = .ok c) : IncludeFree c.tree := by
  have hwritten : ∀ t ∈ s.templates, ∀ nodes ∈ t.parts, Everywhere TreeRule.any.Written nodes :=
    fun t ht nodes hnodes =>
      Everywhere.imp (fun n hn => ⟨TreeRule.holds_any n, hn⟩) nodes (hparts t ht nodes hnodes)
  have hall := hs.everywhere_resolve TreeRule.any.reachedFrom_written hwritten id c hc
  refine Everywhere.imp (fun n hn => ?_) c.tree hall
  exact (TreeRule.holds_withoutIncludes.mp hn).2

namespace Workspace

/-- **Compiled trees are free of includes.**  In any reachable workspace, let all includes in the
templates of a session's store name a template, at every depth of every content and payload.  Then
there is no include at any depth of a tree that the session compiles.  All includes of templates
that were loaded from a source name a template. -/
theorem includeFree_of_answer_compile {w : Workspace} (h : w.Reachable) {i : Nat}
    {session : Session} (hi : w.sessions[i]? = some session)
    (hparts : ∀ t ∈ (w.storeOf session).templates, ∀ nodes ∈ t.parts, NamedIncludes nodes) :
    (∀ id c, w.answer i (.compile id) = .outcome (.ok c) → IncludeFree c.tree) ∧
      ∀ minify name source ts, readTemplates minify name source = .ok ts →
        ∀ t ∈ ts, ∀ nodes ∈ t.parts, NamedIncludes nodes := by
  have hw : w.Coherent := h.coherent
  refine ⟨fun id c hc => ?_, fun minify name source ts hts t ht nodes hnodes => ?_⟩
  · rw [hw.answer_compile hi, Answer.outcome.injEq] at hc
    exact (hw.indexed_storeOf session).includeFree_resolve hparts hc
  · obtain ⟨tree, -, hall⟩ := readTemplates_parts hts
    exact (hall t ht nodes hnodes).1.named

/-- An include within a root, one that a layer puts into it, and one that a copy puts in the place of
what the first stood for. -/
theorem includeFree_of_answer_compile_nested :
    let calls : List (Nat × Operation) :=
      [(0, .registerAll [
          ⟨"a", .root [.element "div" ⟨[]⟩ [.element "include" ⟨[("template", "b")]⟩ []]], .inline⟩,
          ⟨"b", .root [.element "p" ⟨[]⟩ []], .inline⟩,
          ⟨"c", .copy "a" [⟨⟨"/div/p", [⟨.child, .named "div", []⟩, ⟨.child, .named "p", []⟩]⟩,
            .replace, [.element "include" ⟨[("template", "b")]⟩ []], false, ⟨0, 0⟩⟩], .inline⟩]),
        (0, .register ⟨"a", .layer "a" 0 [⟨⟨"/div", [⟨.child, .named "div", []⟩]⟩, .insertInside,
            [.element "b" ⟨[]⟩ [.element "include" ⟨[("template", "b")]⟩ []]], false, ⟨0, 0⟩⟩],
          .inline⟩)]
    let w := (start {}).run calls
    (∃ session, w.sessions[0]? = some session ∧
      ∀ t ∈ (w.storeOf session).templates, ∀ nodes ∈ t.parts, NamedIncludes nodes) ∧
    ∃ c, w.answer 0 (.compile "c") = .outcome (.ok c) ∧
      c.tree = [.element "div" ⟨[]⟩
        [.element "p" ⟨[]⟩ [], .element "b" ⟨[]⟩ [.element "p" ⟨[]⟩ []]]] ∧
      IncludeFree c.tree := by
  intro calls w
  obtain ⟨session, hsession⟩ : ∃ session, w.sessions[0]? = some session := ⟨_, rfl⟩
  have hparts : ∀ t ∈ (w.storeOf session).templates, ∀ nodes ∈ t.parts, NamedIncludes nodes := by
    have htemplates : (w.storeOf session).templates.flatMap Template.parts = [
        [.element "div" ⟨[]⟩ [.element "include" ⟨[("template", "b")]⟩ []]],
        [.element "p" ⟨[]⟩ []],
        [.element "include" ⟨[("template", "b")]⟩ []],
        [.element "b" ⟨[]⟩ [.element "include" ⟨[("template", "b")]⟩ []]]] := by
      cases hsession; rfl
    have hnamed : NamedIncludes [.element "include" ⟨[("template", "b")]⟩ []] := by
      simp [NamedIncludes, NamedInclude, Markup.Attributes.get?, includeKey]
    intro t ht nodes hnodes
    have hmem := List.mem_flatMap.mpr ⟨t, ht, hnodes⟩
    rw [htemplates] at hmem
    simp only [List.mem_cons, List.not_mem_nil, or_false] at hmem
    rcases hmem with rfl | rfl | rfl | rfl
    all_goals simp_all [NamedIncludes, NamedInclude, includeTag]
  obtain ⟨c, hc, htree⟩ : ∃ c, w.answer 0 (.compile "c") = .outcome (.ok c) ∧
      c.tree = [.element "div" ⟨[]⟩
        [.element "p" ⟨[]⟩ [], .element "b" ⟨[]⟩ [.element "p" ⟨[]⟩ []]]] := by
    refine ⟨⟨"c", _, [⟨"a", none, .inline⟩, ⟨"a", some .inPlace, .inline⟩,
      ⟨"c", some .copy, .inline⟩]⟩, ?_, rfl⟩
    cbv
  have hfree := (includeFree_of_answer_compile ⟨{}, calls, rfl⟩ hsession hparts).1
  exact ⟨⟨session, hsession, hparts⟩, c, hc, htree, hfree "c" c hc⟩

end Workspace

end MarkupTemplates
