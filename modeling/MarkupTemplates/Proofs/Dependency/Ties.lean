import MarkupTemplates.Proofs.Dependency.Order

/-!
# Ties in the order of all ids

The order of all ids follows the order in which they were registered, but for ids that others
require.  A walk finishes only what its targets lead to (`requires_of_walk`), so whatever is
finished once the ids up to `x` have been visited is required, directly or not, by one of them
(`requires_of_foldlM`); what is finished later comes later in the order.

* `exists_requires_of_idxOf_lt`: an id that comes before one registered earlier is required by an id
  that was registered no later than that one.
* `Store.Registered.compileOrder_graph`: when there is an order, and all that is true of it.
-/

namespace MarkupTemplates

open Relation (TransGen ReflTransGen)

namespace Graph

variable {g : Graph} {id x y : String} {finished after order : List String}

/-! ### What is finished -/

/-- A walk finishes only ids that a defined target leads to. -/
theorem requires_of_walk {current : String} {above targets : List String}
    (h : g.walk false current above finished targets = .ok after) (hx : x ∈ after) :
    x ∈ finished ∨ ∃ t ∈ targets, g.isDefined t = true ∧ ReflTransGen g.Requires t x := by
  generalize hstrict : false = strict at h
  fun_induction walk g strict current above finished targets generalizing after with
  | case1 => cases h; exact .inl hx
  | case2 => cases h
  | case3 current above finished t ts hd hw hmem ih =>
      rcases ih hx h with hold | ⟨u, hu, hux⟩
      · exact .inl hold
      · exact .inr ⟨u, List.mem_cons_of_mem t hu, hux⟩
  | case4 => cases h
  | case5 current above finished t ts hd hw hmem inner hinner ihIn ih =>
      rcases ih hx h with hold | ⟨u, hu, hux⟩
      · -- finished below `t`, if not before
        rcases List.mem_append.mp hold with hold | hold
        · rcases ihIn hold hinner with hold | ⟨d, hdep, hdefined, hdx⟩
          · exact .inl hold
          · exact .inr ⟨t, List.mem_cons_self, hd, .head ⟨hdep, hdefined⟩ hdx⟩
        · rw [List.mem_singleton.mp hold]
          exact .inr ⟨t, List.mem_cons_self, hd, .refl⟩
      · exact .inr ⟨u, List.mem_cons_of_mem t hu, hux⟩
  | case6 current above finished t ts hd hs => rw [← hstrict] at hs; cases hs
  | case7 current above finished t ts hd hs ih =>
      rcases ih hx h with hold | ⟨u, hu, hux⟩
      · exact .inl hold
      · exact .inr ⟨u, List.mem_cons_of_mem t hu, hux⟩

theorem requires_of_finishWith (h : g.finishWith finished id = .ok after) (hx : x ∈ after) :
    x ∈ finished ∨ ReflTransGen g.Requires id x := by
  rw [finishWith] at h
  split at h
  · cases h; exact .inl hx
  · cases hw : g.walk false id [] finished (g.dependencies id) with
    | error e => rw [hw] at h; cases h
    | ok found =>
        rw [hw] at h; cases h
        rcases List.mem_append.mp hx with hx | hx
        · rcases requires_of_walk hw hx with hold | ⟨t, ht, hd, htx⟩
          · exact .inl hold
          · exact .inr (.head ⟨ht, hd⟩ htx)
        · rw [List.mem_singleton.mp hx]; exact .inr .refl

/-- Visiting ids finishes only what one of them leads to. -/
theorem requires_of_foldlM {ids : List String}
    (h : ids.foldlM g.finishWith finished = .ok after) (hx : x ∈ after) :
    x ∈ finished ∨ ∃ r ∈ ids, ReflTransGen g.Requires r x := by
  induction ids generalizing finished with
  | nil => cases h; exact .inl hx
  | cons id ids ih =>
      rw [List.foldlM_cons] at h
      cases hnext : g.finishWith finished id with
      | error e => rw [hnext] at h; cases h
      | ok next =>
          rw [hnext] at h
          rcases ih h with hold | ⟨r, hr, hrx⟩
          · rcases requires_of_finishWith hnext hold with hold | hrx
            · exact .inl hold
            · exact .inr ⟨id, List.mem_cons_self, hrx⟩
          · exact .inr ⟨r, List.mem_cons_of_mem id hr, hrx⟩

/-! ### Ties -/

/-- What is finished comes first in what is finished later. -/
theorem isPrefix_of_foldlM {ids : List String} (h : ids.foldlM g.finishWith finished = .ok after)
    (hf : g.Ordered finished) : finished <+: after := by
  induction ids generalizing finished with
  | nil => cases h; exact List.prefix_rfl
  | cons id ids ih =>
      rw [List.foldlM_cons] at h
      cases hnext : g.finishWith finished id with
      | error e => rw [hnext] at h; cases h
      | ok next =>
          rw [hnext] at h
          obtain ⟨hordered, -, new, rfl, -⟩ := ordered_of_finishWith hnext hf
          exact (List.prefix_append finished new).trans (ih h hordered)

/-- **An id that comes before one registered earlier** is required by one registered no later than
that one. -/
theorem exists_requires_of_idxOf_lt (h : g.compileOrder = .ok order)
    (hx : x ∈ g.vertices.map (·.id)) (hyx : order.idxOf y < order.idxOf x) :
    ∃ r ∈ g.vertices.map (·.id),
      (g.vertices.map (·.id)).idxOf r ≤ (g.vertices.map (·.id)).idxOf x ∧
        ReflTransGen g.Requires r y := by
  rw [compileOrder] at h
  have hknown : ∀ i ∈ g.vertices.map (·.id), g.isKnown i = true := fun i => mem_ids_iff.mp
  generalize g.vertices.map (·.id) = ids at h hx hknown ⊢
  -- the visit of the ids, cut after `x`
  obtain ⟨before, later, rfl, hnot⟩ := List.eq_append_cons_of_mem hx
  rw [List.append_cons, List.foldlM_append] at h
  cases hcut : (before ++ [x]).foldlM g.finishWith [] with
  | error e => rw [hcut] at h; cases h
  | ok cut =>
      rw [hcut] at h
      have hsub : ∀ i ∈ before ++ [x], g.isKnown i = true := fun i hi =>
        hknown i (by rw [List.append_cons]; exact List.mem_append_left later hi)
      obtain ⟨hordered, hall, -⟩ := ordered_of_foldlM hcut .nil hsub nofun
      obtain ⟨rest, rfl⟩ := isPrefix_of_foldlM h hordered
      have hxcut : x ∈ cut := hall (by simp)
      have hycut : y ∈ cut := by
        by_contra hy
        rw [List.idxOf_append_of_mem hxcut, List.idxOf_append_of_notMem hy] at hyx
        have := List.idxOf_lt_length_of_mem hxcut
        omega
      obtain hnil | ⟨r, hr, hry⟩ := requires_of_foldlM hcut hycut
      · cases hnil
      refine ⟨r, by rw [List.append_cons]; exact List.mem_append_left later hr, ?_, hry⟩
      rw [List.idxOf_append_of_notMem hnot, List.idxOf_cons_self, Nat.add_zero]
      rcases List.mem_append.mp hr with hr | hr
      · rw [List.idxOf_append_of_mem hr]
        exact (List.idxOf_lt_length_of_mem hr).le
      · rw [List.mem_singleton.mp hr, List.idxOf_append_of_notMem hnot, List.idxOf_cons_self,
          Nat.add_zero]

/-- A circle among what ids require. -/
theorem IsCircle.of_definedPart {chain : List String} (h : g.definedPart.IsCircle chain) :
    g.IsCircle chain ∧ chain.IsChain g.Requires := by
  have hrequires : chain.IsChain g.Requires := h.chain.imp fun _ _ => needs_definedPart.mp
  exact ⟨⟨h.two_le, h.closed, h.nodup, hrequires.imp fun _ _ hab => hab.1⟩, hrequires⟩

end Graph

namespace Store

variable {s : Store}

/-- **The order of all ids.**  In a registered store an id requires what its templates copy and
include, as far as it is defined.  There is no order exactly if ids require each other in a circle,
and the error shows such a circle.  An order has each id of the store once and after all that it
requires, and an id comes before one registered earlier only if one registered no later than that
one leads to it. -/
theorem Registered.compileOrder_graph (h : s.Registered) :
    (∀ a b, s.graph.Requires a b ↔
      (∃ t ∈ s.templates, t.id = a ∧ (t.copied? = some b ∨ b ∈ t.includes)) ∧
        s.contains b = true) ∧
    ((∃ e, s.graph.compileOrder = .error e) ↔ ∃ x, TransGen s.graph.Requires x x) ∧
    (∀ e, s.graph.compileOrder = .error e →
      ∃ chain, e = .cycle chain ∧ s.graph.IsCircle chain ∧ chain.IsChain s.graph.Requires) ∧
    ∀ order, s.graph.compileOrder = .ok order →
      order.Nodup ∧ (∀ x, x ∈ order ↔ x ∈ s.ids) ∧
        (∀ a b, s.graph.Requires a b → order.idxOf b < order.idxOf a) ∧
          ∀ x ∈ s.ids, ∀ y ∈ s.ids, s.ids.idxOf x < s.ids.idxOf y →
            order.idxOf y < order.idxOf x →
              ∃ r ∈ s.ids, s.ids.idxOf r ≤ s.ids.idxOf x ∧ ReflTransGen s.graph.Requires r y := by
  refine ⟨fun a b => ?_, ?_, fun e he => ?_, fun order horder => ?_⟩
  · have hdefined : s.graph.isDefined b = s.contains b := graph_isDefined s b
    rw [Graph.Requires, h.indexed.needs_iff, hdefined]
    simp only [Template.dependencies, List.mem_append, Option.mem_toList]
  · constructor
    · rintro ⟨e, he⟩
      by_contra hnone
      obtain ⟨order, horder⟩ := Graph.exists_compileOrder_iff.mpr (not_exists.mp hnone)
      rw [horder] at he
      cases he
    · rintro ⟨x, hx⟩
      cases hresult : s.graph.compileOrder with
      | error e => exact ⟨e, rfl⟩
      | ok order => exact absurd hx (Graph.exists_compileOrder_iff.mp ⟨order, hresult⟩ x)
  · obtain ⟨chain, rfl, hcircle⟩ := Graph.compileOrder_eq_error he
    exact ⟨chain, rfl, hcircle.of_definedPart⟩
  · obtain ⟨hordered, hmem⟩ := Graph.compileOrder_eq_ok horder
    rw [vertices_graph] at hmem
    refine ⟨hordered.nodup, hmem, fun a b hab => ?_, fun x hx y _ _ hyx => ?_⟩
    · have ha : a ∈ order := by
        rw [hmem, ← vertices_graph]
        exact Graph.mem_ids_iff.mpr hab.isKnown
      exact (hordered.idxOf_lt ha hab).2
    · have hties := Graph.exists_requires_of_idxOf_lt horder (by rwa [vertices_graph]) hyx
      rwa [vertices_graph] at hties

/-- A root that includes a copy, a layer without a template, and the root of the copy, which
includes an id that is nowhere. -/
theorem compileOrder_graph_ties :
    let ts : List Template :=
      [⟨"a", .root [.element "include" ⟨[("template", "c")]⟩ []], .inline⟩,
        ⟨"l", .layer "l" 0 [⟨⟨"p", []⟩, .replace, [.element "include" ⟨[("template", "b")]⟩ []],
          false, ⟨0, 0⟩⟩], .inline⟩,
        ⟨"b", .root [.element "include" ⟨[("template", "x")]⟩ []], .inline⟩,
        ⟨"c", .copy "b" [], .inline⟩]
    ∃ s handles, Store.empty.registerAll ts = .ok (s, handles) ∧ s.Registered ∧
      s.graph.compileOrder = .ok ["b", "c", "a", "l"] ∧
      ∃ r ∈ s.ids, s.ids.idxOf r ≤ s.ids.idxOf "l" ∧ ReflTransGen s.graph.Requires r "b" := by
  intro ts
  obtain ⟨⟨s, handles⟩, hreg⟩ : ∃ r, Store.empty.registerAll ts = .ok r := ⟨_, rfl⟩
  have hs : s.Registered := .batch .empty hreg
  have horder : s.graph.compileOrder = .ok ["b", "c", "a", "l"] := by
    cases hreg
    subst ts
    cbv
  have hids : s.ids = ["a", "l", "b", "c"] := by
    cases hreg
    subst ts
    rfl
  refine ⟨s, handles, hreg, hs, horder, ?_⟩
  refine (hs.compileOrder_graph.2.2.2 _ horder).2.2.2 "l" ?_ "b" ?_ ?_ (by decide)
  all_goals rw [hids]; decide

end Store

end MarkupTemplates
