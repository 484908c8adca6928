import Mathlib
import MarkupTemplates.Proofs.Compile.Extending
import MarkupTemplates.Proofs.Session.Isolation

/-!
# The two modes of extension

To extend a template that compiles, a session can register a copy under a new id, or a layer in
place.  `answer_compile_copy_layer`: the copy compiles to the tree that the template compiles to
with the layer, or neither compiles, if nothing that the directives include depends on the template
and the layer comes last.
-/

namespace MarkupTemplates

namespace Store

variable {s : Store} {new base : String} {directives : List Directive} {origin : Origin}

theorem refusal?_copy (hs : s.Indexed) (hblank : Text.isBlankText new = false)
    (hnew : ∀ t ∈ s.templates, t.id ≠ new) :
    s.refusal? [] ⟨new, .copy base directives, origin⟩ = none := by
  have hnone : s.definition? new = none := Option.eq_none_iff_forall_ne_some.mpr fun t ht =>
    hnew t (hs.mem_of_definition? ht).1 (hs.mem_of_definition? ht).2
  simp [refusal?, hblank, Template.layered?, contains, hnone]

theorem refusal?_layer {priority : Int} (hblank : Text.isBlankText base = false) :
    s.refusal? [] ⟨base, .layer base priority directives, origin⟩ = none := by
  simp [refusal?, hblank, Template.layered?]

end Store

namespace Workspace

variable {w : Workspace} {i : Nat} {session : Session} {t : Template} {after : Store}
  {handles : Noted (List Handle)}

theorem step_register (hi : w.sessions[i]? = some session)
    (hreg : (w.storeOf session).registerAll [t] = .ok (after, handles)) :
    w.step i (.register t) = w.setStore session after := by
  rw [← step_registerAll hi hreg, step, step, perform, perform, hi]

theorem answer_register (hi : w.sessions[i]? = some session)
    (hreg : (w.storeOf session).registerAll [t] = .ok (after, handles)) :
    w.answer i (.register t) = .handles handles.value := by
  rw [answer, perform, hi]
  simp only [registerAll, hreg]
  rfl

/-- What a session answers after it has registered a template. -/
theorem Coherent.answer_compile_step_register (hw : w.Coherent)
    (hi : w.sessions[i]? = some session)
    (hreg : (w.storeOf session).registerAll [t] = .ok (after, handles)) (id : String) :
    (w.step i (.register t)).answer i (.compile id) = .outcome (after.resolve id) := by
  have hstep := step_register hi hreg
  have hsession : (w.step i (.register t)).sessions[i]? = some session := by rw [hstep]; exact hi
  have hlt := hw.store_lt session (List.mem_of_getElem? hi)
  rw [(hw.step i _).answer_compile hsession, hstep, storeOf_setStore after hlt rfl]

/-- **The two modes of extension agree.**  In any reachable workspace, let `base` compile for a
session.  Let no id that the payloads of the directives include be `base` or reach it; let `new` be
an id that is not blank, that no template of the session's store has or names, and that the payloads
do not include; and let no layer of `base` have a higher priority than the one given.  Then the
session can register a copy of `base` under `new` with these directives, and it can register a layer
of `base` with them instead; and `new` compiles in the first case to the tree that `base` compiles to
in the second, or both fail. -/
theorem answer_compile_copy_layer (h : w.Reachable) (hi : w.sessions[i]? = some session)
    {base new : String} {directives : List Directive} {priority : Int} {c : Compiled}
    (hbase : w.answer i (.compile base) = .outcome (.ok c))
    (hfree : ∀ d ∈ payloadIncludes directives, ¬ (w.storeOf session).graph.Reaches d base)
    (hblank : Text.isBlankText new = false)
    (hnew : ∀ t ∈ (w.storeOf session).templates, t.id ≠ new ∧ new ∉ t.dependencies)
    (hown : new ∉ payloadIncludes directives)
    (hpriority : ∀ t ∈ (w.storeOf session).layers base, t.priority ≤ priority)
    (origin origin' : Origin) :
    let copy : Template := ⟨new, .copy base directives, origin⟩
    let layer : Template := ⟨base, .layer base priority directives, origin'⟩
    (∃ handles, w.answer i (.register copy) = .handles handles) ∧
    (∃ handles, w.answer i (.register layer) = .handles handles) ∧
    ∃ x y, (w.step i (.register copy)).answer i (.compile new) = .outcome x ∧
      (w.step i (.register layer)).answer i (.compile base) = .outcome y ∧
      ((∃ a b, x = .ok a ∧ y = .ok b ∧ a.tree = b.tree) ∨
        ∃ e e', x = .error e ∧ y = .error e') := by
  intro copy layer
  have hw : w.Coherent := h.coherent
  have hregistered := hw.registered_storeOf session
  have hs := hregistered.indexed
  rw [hw.answer_compile hi, Answer.outcome.injEq] at hbase
  -- both are accepted
  obtain ⟨t, ht, hid⟩ := (hs.knows_iff base).mp (hs.knows_of_resolve hbase)
  have hcopyable : (w.storeOf session).refusal? [] copy = none :=
    Store.refusal?_copy hs hblank fun t ht => (hnew t ht).1
  have hlayerable : (w.storeOf session).refusal? [] layer = none :=
    Store.refusal?_layer (hid ▸ hregistered.isBlankText_id t ht)
  obtain ⟨copied, handles, hcopy⟩ := Store.exists_registerAll_of_refusal? hcopyable
  obtain ⟨layered, handles', hlayer⟩ := Store.exists_registerAll_of_refusal? hlayerable
  refine ⟨⟨_, answer_register hi hcopy⟩, ⟨_, answer_register hi hlayer⟩, copied.resolve new,
    layered.resolve base, hw.answer_compile_step_register hi hcopy new,
    hw.answer_compile_step_register hi hlayer base, ?_⟩
  have htree := hs.resolve_copy_layer (hregistered.batch hcopy).indexed
    (hregistered.batch hlayer).indexed hcopy hlayer hbase hnew hown hfree hpriority
  cases hx : copied.resolve new with
  | ok a =>
      obtain ⟨b, hb, htrees⟩ := (htree a.tree).mp ⟨a, hx, rfl⟩
      exact .inl ⟨a, b, rfl, hb, htrees.symm⟩
  | error e =>
      cases hy : layered.resolve base with
      | ok b =>
          obtain ⟨a, ha, -⟩ := (htree b.tree).mpr ⟨b, hy, rfl⟩
          cases hx.symm.trans ha
      | error e' => exact .inr ⟨e, e', rfl, rfl⟩

/-- Behind the layers of the template, and with an include in the payload. -/
theorem answer_compile_copy_layer_include :
    let calls : List (Nat × Operation) :=
      [(0, .registerAll [⟨"a", .root [.element "p" ⟨[]⟩ []], .inline⟩,
          ⟨"b", .root [.text "x"], .inline⟩]),
        (0, .register ⟨"a", .layer "a" 1 [⟨⟨"/p", [⟨.child, .named "p", []⟩]⟩, .insertInside,
          [.element "b" ⟨[]⟩ []], false, ⟨0, 0⟩⟩], .inline⟩)]
    let directives : List Directive := [⟨⟨"//b", [⟨.descendant, .named "b", []⟩]⟩, .replace,
      [.element "include" ⟨[("template", "b")]⟩ []], false, ⟨0, 0⟩⟩]
    let copy : Template := ⟨"c", .copy "a" directives, .inline⟩
    let layer : Template := ⟨"a", .layer "a" 1 directives, .inline⟩
    let w := (start {}).run calls
    (∃ c, w.answer 0 (.compile "a") = .outcome (.ok c) ∧
      c.tree = [.element "p" ⟨[]⟩ [.element "b" ⟨[]⟩ []]]) ∧
    ∃ x y, (w.step 0 (.register copy)).answer 0 (.compile "c") = .outcome x ∧
      (w.step 0 (.register layer)).answer 0 (.compile "a") = .outcome y ∧
      ((∃ a b, x = .ok a ∧ y = .ok b ∧ a.tree = b.tree) ∨
        ∃ e e', x = .error e ∧ y = .error e') := by
  intro calls directives copy layer w
  obtain ⟨session, hi⟩ : ∃ session, w.sessions[0]? = some session := ⟨_, rfl⟩
  have hstore : w.storeOf session = w.storeOf ⟨{}, 0, { store := .empty }⟩ := by cases hi; rfl
  obtain ⟨c, hc, htree⟩ : ∃ c, w.answer 0 (.compile "a") = .outcome (.ok c) ∧
      c.tree = [.element "p" ⟨[]⟩ [.element "b" ⟨[]⟩ []]] := by
    refine ⟨⟨"a", _, [⟨"a", none, .inline⟩, ⟨"a", some .inPlace, .inline⟩]⟩, ?_, rfl⟩
    cbv
  have hincludes : payloadIncludes directives = ["b"] := by decide
  have hnone : (w.storeOf session).graph.dependencies "b" = [] := by rw [hstore]; decide
  have hfree : ∀ d ∈ payloadIncludes directives, ¬ (w.storeOf session).graph.Reaches d "a" := by
    intro d hd hr
    rw [hincludes, List.mem_singleton] at hd
    subst hd
    rcases Relation.ReflTransGen.cases_head hr with he | ⟨d, hd, -⟩
    · exact absurd he (by decide)
    · rw [Graph.Needs, hnone] at hd; cases hd
  have hnew : ∀ t ∈ (w.storeOf session).templates, t.id ≠ "c" ∧ "c" ∉ t.dependencies := by
    rw [hstore]; decide
  have hown : "c" ∉ payloadIncludes directives := by rw [hincludes]; decide
  have hpriority : ∀ t ∈ (w.storeOf session).layers "a", t.priority ≤ 1 := by rw [hstore]; decide
  exact ⟨⟨c, hc, htree⟩, (answer_compile_copy_layer ⟨{}, calls, rfl⟩ hi hc hfree (by decide) hnew
    hown hpriority .inline .inline).2.2⟩

end Workspace

end MarkupTemplates
