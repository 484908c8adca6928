import Mathlib
import MarkupTemplates.Proofs.Dependency.StoreGraph
import MarkupTemplates.Proofs.Dependency.Way

/-!
# What the check of an id says

The check of an id succeeds exactly when everything the id reaches has a definition and nothing it
reaches depends on itself.  When it fails, its error is right about the graph: a walk carries the way
from the id to where it is (`Graph.IsWay`), so that an undefined target is a dependency of an id on
the way, and a target on the way closes a circle (`Graph.fault_of_walk`).

`Store.Registered.checkFrom_graph` says this of the graph of a store, edges included.
-/

namespace MarkupTemplates

open Relation (TransGen)

namespace Graph

variable {g : Graph} {id : String}

/-- What an error of the check of `id` says about the graph. -/
inductive Fault (g : Graph) (id : String) : ResolutionError → Prop where
  /-- The id is not known. -/
  | notFound : g.isKnown id = false → Fault g id (.notFound id)
  /-- The id is known and has no definition itself. -/
  | undefined : g.isKnown id = true → g.isDefined id = false → Fault g id (.missingTarget id id)
  /-- An id that is reached depends on one that has no definition. -/
  | missingTarget {a b : String} :
      g.Reaches id a → g.Needs a b → g.isDefined b = false → Fault g id (.missingTarget a b)
  /-- Ids that are reached depend on each other in a circle. -/
  | cycle {chain : List String} :
      g.IsCircle chain → (∀ x ∈ chain, g.Reaches id x) → Fault g id (.cycle chain)

/-- **The error of a strict walk is right**, if the walk came by a way from `id`. -/
theorem fault_of_walk {current : String} {above finished targets : List String}
    {e : ResolutionError} (h : g.walk true current above finished targets = .error e)
    (hway : g.IsWay id (current :: above)) (ht : ∀ t ∈ targets, g.Needs current t) :
    g.Fault id e := by
  generalize hs : true = strict at h
  fun_induction walk g strict current above finished targets with
  | case1 => cases h
  | case2 current above finished t ts hd hw =>
      cases h
      obtain ⟨hcircle, hmem⟩ := hway.isCircle_circle (ht t (by simp)) hw
      exact .cycle hcircle fun x hx => hway.reaches x (hmem x hx)
  | case3 current above finished t ts hd hw hmem ih =>
      exact ih hway (fun u hu => ht u (List.mem_cons_of_mem _ hu)) h
  | case4 current above finished t ts hd hw hmem e' he ih =>
      cases h
      -- the error comes from below `t`, to where the way goes on
      exact ih (hway.cons (ht t (by simp)) hw) (fun _ hu => hu) he
  | case5 current above finished t ts hd hw hmem inner hinner ihIn ih =>
      exact ih hway (fun u hu => ht u (List.mem_cons_of_mem _ hu)) h
  | case6 current above finished t ts hd =>
      cases h
      exact .missingTarget (hway.reaches current (by simp)) (ht t (by simp)) (by simpa using hd)
  | case7 => exact absurd hs.symm ‹_›

/-- **The error of the check of an id is right.** -/
theorem fault_of_checkFrom {e : ResolutionError} (h : g.checkFrom id = .error e) :
    g.Fault id e := by
  rw [checkFrom] at h
  split at h
  · cases hw : g.walk true id [] [] (g.dependencies id) with
    | ok after => rw [hw] at h; cases h
    | error e' =>
        rw [hw] at h; cases h
        exact fault_of_walk hw (isWay_singleton g id) fun _ ht => ht
  · rename_i hd
    have hd : g.isDefined id = false := by simpa using hd
    cases h
    split
    · rename_i hk; exact .undefined hk hd
    · rename_i hk; exact .notFound (by simpa using hk)

end Graph

namespace Store

variable {s : Store} {id : String}

/-- What an error of the check of `id` says about a store. -/
def CheckFault (s : Store) (id : String) : ResolutionError → Prop
  | .notFound x => x = id ∧ s.contains id = false ∧ s.hasLayers id = false
  | .missingTarget a b =>
    s.contains b = false ∧
      (a = id ∧ b = id ∧ s.hasLayers id = true ∨ s.graph.Reaches id a ∧ s.graph.Needs a b)
  | .cycle chain => s.graph.IsCircle chain ∧ ∀ x ∈ chain, s.graph.Reaches id x
  | _ => False

/-- A store knows an id by its definition or its layers. -/
theorem Indexed.knows_eq (h : s.Indexed) (id : String) :
    s.knows id = (s.contains id || s.hasLayers id) := by
  rw [Bool.eq_iff_iff, Bool.or_eq_true]
  constructor
  · intro hk
    obtain ⟨t, ht, hid⟩ := (h.knows_iff id).mp hk
    cases hl : t.isLayer with
    | false =>
        left
        rw [contains, (h.definition?_eq_some_iff id t).mpr ⟨ht, hl, hid⟩]; rfl
    | true =>
        right
        subst hid
        have hne := List.ne_nil_of_mem (h.mem_layers_of_isLayer ht hl)
        rw [hasLayers, List.isEmpty_eq_false_iff.mpr hne]; rfl
  · intro hor
    rw [knows]
    cases hs : s.slot? id with
    | some slot => rfl
    | none => simp [contains, definition?, hasLayers, layers, hs] at hor

theorem Indexed.checkFault (h : s.Indexed) {e : ResolutionError} (he : s.graph.Fault id e) :
    s.CheckFault id e := by
  have hknows := h.knows_eq id
  cases he with
  | notFound hk =>
      rw [graph_isKnown] at hk
      rw [hk, eq_comm, Bool.or_eq_false_iff] at hknows
      exact ⟨rfl, hknows⟩
  | undefined hk hd =>
      rw [graph_isKnown] at hk
      have hc : s.contains id = false := (graph_isDefined s id).symm.trans hd
      rw [hk, hc, Bool.false_or] at hknows
      exact ⟨hc, .inl ⟨rfl, rfl, hknows.symm⟩⟩
  | @missingTarget a b ha hab hd => exact ⟨(graph_isDefined s b).symm.trans hd, .inr ⟨ha, hab⟩⟩
  | cycle hc hr => exact ⟨hc, hr⟩

/-- **Exactness of the check.**  In the graph of a registered store an id depends on what its
templates copy and include.  The check of an id succeeds exactly if the id has a definition, all it
reaches have one, and nothing it reaches depends on itself; any error of it is one of three, and
right about the store. -/
theorem Registered.checkFrom_graph (h : s.Registered) (id : String) :
    (∀ a b, s.graph.Needs a b ↔
      ∃ t ∈ s.templates, t.id = a ∧ (t.copied? = some b ∨ b ∈ t.includes)) ∧
    (s.graph.checkFrom id = .ok () ↔
      s.contains id = true ∧ (∀ x, s.graph.Reaches id x → s.contains x = true) ∧
        ∀ x, s.graph.Reaches id x → ¬ TransGen s.graph.Needs x x) ∧
    ∀ e, s.graph.checkFrom id = .error e → s.CheckFault id e := by
  have hs : s.Indexed := h.indexed
  refine ⟨fun a b => ?_, ?_, fun e he => hs.checkFault (Graph.fault_of_checkFrom he)⟩
  · rw [hs.needs_iff]
    simp only [Template.dependencies, List.mem_append, Option.mem_toList]
  · rw [Graph.checkFrom_eq_ok_iff]
    have hdefined : ∀ x, s.graph.isDefined x = s.contains x := graph_isDefined s
    simp only [Graph.Sound, hdefined]
    constructor
    · intro hsound
      exact ⟨(hsound id .refl).1, fun x hx => (hsound x hx).1, fun x hx => (hsound x hx).2⟩
    · rintro ⟨-, hcontains, hacyclic⟩ x hx
      exact ⟨hcontains x hx, hacyclic x hx⟩

/-- A root that includes a copy, which is layered besides, of a root that includes the copy. -/
theorem checkFrom_graph_circle :
    let ts : List Template :=
      [⟨"a", .root [.element "include" ⟨[("template", "b")]⟩ []], .inline⟩,
        ⟨"b", .copy "c" [], .inline⟩, ⟨"b", .layer "b" 1 [], .inline⟩,
        ⟨"c", .root [.element "p" ⟨[]⟩ [.element "include" ⟨[("template", "b")]⟩ []]], .inline⟩]
    ∃ s handles, Store.empty.registerAll ts = .ok (s, handles) ∧ s.Registered ∧
      s.graph.checkFrom "a" = .error (.cycle ["b", "c", "b"]) ∧
      s.graph.IsCircle ["b", "c", "b"] ∧ ∀ x ∈ ["b", "c", "b"], s.graph.Reaches "a" x := by
  intro ts
  obtain ⟨⟨s, handles⟩, hreg⟩ : ∃ r, Store.empty.registerAll ts = .ok r := ⟨_, rfl⟩
  have hs : s.Registered := .batch .empty hreg
  have hcheck : s.graph.checkFrom "a" = .error (.cycle ["b", "c", "b"]) := by
    cases hreg
    subst ts
    cbv
  exact ⟨s, handles, hreg, hs, hcheck, (hs.checkFrom_graph "a").2.2 _ hcheck⟩

end Store

end MarkupTemplates
