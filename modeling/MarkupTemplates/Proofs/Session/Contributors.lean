import Mathlib
import MarkupTemplates.Proofs.Compile.Lineage
import MarkupTemplates.Proofs.Session.Runs

/-!
# The contributors of compiled templates

A compiled template names the templates that had a part in it.  These are the definitions on the
line of its id, from the root on, each followed by the layers of its own id
(`contributors_of_answer_compile`).  What is included has a part in the tree, and none in this list.
-/

namespace MarkupTemplates.Workspace

/-- **Contributors go along the line of copies.**  In any reachable workspace, let an id compile for
a session.  There is exactly one line of copies that leads from a root to the definition of the id;
and the contributors are the templates of this line in order, each with its own id, mode and origin,
and each followed by the layers of its id, by ascending priority and, where they have one priority,
in the order of registration. -/
theorem contributors_of_answer_compile {w : Workspace} (h : w.Reachable) {i : Nat}
    {session : Session} (hi : w.sessions[i]? = some session) {id : String} {c : Compiled}
    (hc : w.answer i (.compile id) = .outcome (.ok c)) :
    let s := w.storeOf session
    (∃! line, s.Lineage id line) ∧
      ∀ line, s.Lineage id line →
        c.contributors = line.flatMap fun t =>
          (t :: (s.templates.filter fun u => u.isLayer && u.id == t.id).mergeSort
            fun u v => u.priority ≤ v.priority).map fun u => ⟨u.id, u.mode?, u.origin⟩ := by
  intro s
  have hw : w.Coherent := h.coherent
  have hs := hw.indexed_storeOf session
  rw [hw.answer_compile hi, Answer.outcome.injEq] at hc
  obtain ⟨line, hline⟩ := hs.exists_lineage hc
  refine ⟨⟨line, hline, fun other hother => hs.lineage_unique hline hother⟩, fun line hline => ?_⟩
  exact hline.contributors_eq (hw.registered_storeOf session) hc

/-- A copy of a copy of a root that includes another one: the layers of the root are registered
against the order of their priorities, and the last copy has two layers of one priority. -/
theorem contributors_of_answer_compile_layers :
    let calls : List (Nat × Operation) := [(0, .registerAll [
      ⟨"c", .layer "c" 0 [], ⟨"first", ⟨0, 9⟩⟩⟩, ⟨"c", .copy "b" [], .inline⟩,
      ⟨"a", .layer "a" 7 [], ⟨"high", ⟨0, 9⟩⟩⟩, ⟨"b", .copy "a" [], .inline⟩,
      ⟨"a", .root [.element "include" ⟨[("template", "x")]⟩ []], .inline⟩,
      ⟨"a", .layer "a" (-1) [], ⟨"low", ⟨0, 9⟩⟩⟩, ⟨"x", .root [.text "x"], .inline⟩,
      ⟨"x", .layer "x" 0 [], .inline⟩, ⟨"c", .layer "c" 0 [], ⟨"second", ⟨0, 9⟩⟩⟩])]
    let w := (start {}).run calls
    ∃ session c line, w.sessions[0]? = some session ∧
      w.answer 0 (.compile "c") = .outcome (.ok c) ∧
      (w.storeOf session).Lineage "c" line ∧ line.map (·.id) = ["a", "b", "c"] ∧
      c.contributors = [⟨"a", none, .inline⟩, ⟨"a", some .inPlace, ⟨"low", ⟨0, 9⟩⟩⟩,
        ⟨"a", some .inPlace, ⟨"high", ⟨0, 9⟩⟩⟩, ⟨"b", some .copy, .inline⟩,
        ⟨"c", some .copy, .inline⟩, ⟨"c", some .inPlace, ⟨"first", ⟨0, 9⟩⟩⟩,
        ⟨"c", some .inPlace, ⟨"second", ⟨0, 9⟩⟩⟩] := by
  intro calls w
  let root : Template := ⟨"a", .root [.element "include" ⟨[("template", "x")]⟩ []], .inline⟩
  let copies : List Template := [⟨"b", .copy "a" [], .inline⟩, ⟨"c", .copy "b" [], .inline⟩]
  obtain ⟨session, hsession⟩ : ∃ session, w.sessions[0]? = some session := ⟨_, rfl⟩
  obtain ⟨c, hc⟩ : ∃ c, w.answer 0 (.compile "c") = .outcome (.ok c) := by
    refine ⟨⟨"c", [.text "x"], [⟨"a", none, .inline⟩, ⟨"a", some .inPlace, ⟨"low", ⟨0, 9⟩⟩⟩,
        ⟨"a", some .inPlace, ⟨"high", ⟨0, 9⟩⟩⟩, ⟨"b", some .copy, .inline⟩,
        ⟨"c", some .copy, .inline⟩, ⟨"c", some .inPlace, ⟨"first", ⟨0, 9⟩⟩⟩,
        ⟨"c", some .inPlace, ⟨"second", ⟨0, 9⟩⟩⟩]⟩, ?_⟩
    cbv
  have hplaces : (w.storeOf session).templates[4]? = some root ∧
      (w.storeOf session).templates[3]? = copies[0]? ∧
      (w.storeOf session).templates[1]? = copies[1]? := by
    cases hsession
    exact ⟨rfl, rfl, rfl⟩
  have hline : (w.storeOf session).Lineage "c" (root :: copies) := by
    obtain ⟨ha, hb, hc⟩ := hplaces
    have hroot : (w.storeOf session).Lineage "a" [root] :=
      .root (List.mem_of_getElem? ha) rfl rfl
    have hcopy := Store.Lineage.copy (List.mem_of_getElem? hb) rfl rfl hroot
    exact .copy (List.mem_of_getElem? hc) rfl rfl hcopy
  have hall := (contributors_of_answer_compile ⟨{}, calls, rfl⟩ hsession hc).2 _ hline
  refine ⟨session, c, root :: copies, hsession, hc, hline, rfl, hall.trans ?_⟩
  cases hsession
  cbv

end MarkupTemplates.Workspace
