import MarkupTemplates.Proofs.Dependency.Reach
import MarkupTemplates.Proofs.Store.Registered

/-!
# The graph of a store

What the graph of a store says of an id, said of the store: whether the store knows the id and has
a definition of it, and which ids the templates of the id name (`Store.Indexed.needs_iff`).
-/

namespace MarkupTemplates

/-- A template needs what its directives include. -/
theorem Template.mem_dependencies_of_mem_payloads {t : Template} {d : String}
    (hd : d ∈ (t.directives.map (·.payload)).flatMap includesIn) : d ∈ t.dependencies := by
  refine List.mem_append_right _ ?_
  obtain ⟨id, body, origin⟩ := t
  cases body with
  | root content => simp [Template.directives] at hd
  | copy target directives => exact hd
  | layer target priority directives => exact hd

namespace Store

variable {s : Store} {id d : String}

/-- A slot of the store is a vertex of its graph, with the dependencies of all templates of the id.
-/
theorem graph_vertex? (s : Store) (id : String) :
    s.graph.vertex? id =
      (s.slot? id).map fun slot => ⟨slot.id, s.dependencies slot.id, slot.definition?.isSome⟩ := by
  rw [Graph.vertex?, graph, List.find?_map]; rfl

@[simp] theorem graph_isKnown (s : Store) (id : String) : s.graph.isKnown id = s.knows id := by
  rw [Graph.isKnown, graph_vertex?, Option.isSome_map]; rfl

@[simp] theorem graph_isDefined (s : Store) (id : String) :
    s.graph.isDefined id = (s.definition? id).isSome := by
  rw [Graph.isDefined, graph_vertex?, definition?]
  cases s.slot? id <;> rfl

/-- The graph has the ids of the store, in the order in which they came. -/
theorem vertices_graph (s : Store) : s.graph.vertices.map (·.id) = s.ids := by
  rw [graph, ids, List.map_map]; rfl

/-- An id depends on what any of its templates depends on. -/
theorem mem_dependencies :
    d ∈ s.dependencies id ↔ ∃ t ∈ s.templates, t.id = id ∧ d ∈ t.dependencies := by
  simp [dependencies, and_assoc]

namespace Indexed

variable (h : s.Indexed)

include h

/-- The dependencies in the graph are those of the store, also for ids that it does not know. -/
theorem graph_dependencies (id : String) : s.graph.dependencies id = s.dependencies id := by
  rw [Graph.dependencies, graph_vertex?]
  cases hs : s.slot? id with
  | some slot =>
      have hid : slot.id = id := by simpa using List.find?_some hs
      simp only [Option.map_some, hid]
  | none =>
      have hno : ∀ t ∈ s.templates, ¬ t.id = id := fun t ht e => by
        have := (h.knows_iff id).mpr ⟨t, ht, e⟩
        rw [knows, hs] at this; cases this
      refine (List.eq_nil_iff_forall_not_mem.mpr fun d hd => ?_).symm
      obtain ⟨t, ht, hid, -⟩ := mem_dependencies.mp hd
      exact hno t ht hid

/-- An id needs what one of its templates names. -/
theorem needs_iff :
    s.graph.Needs id d ↔ ∃ t ∈ s.templates, t.id = id ∧ d ∈ t.dependencies := by
  rw [Graph.Needs, h.graph_dependencies, mem_dependencies]

/-- An id needs what its definition depends on. -/
theorem needs_of_definition? {t : Template} (ht : s.definition? id = some t)
    (hd : d ∈ t.dependencies) : s.graph.Needs id d :=
  have hmem := h.mem_of_definition? ht
  h.needs_iff.mpr ⟨t, hmem.1, hmem.2, hd⟩

theorem needs_of_mem_layers {t : Template} (ht : t ∈ s.layers id) (hd : d ∈ t.dependencies) :
    s.graph.Needs id d :=
  have hmem := h.mem_layers ht
  h.needs_iff.mpr ⟨t, hmem.1, hmem.2, hd⟩

end Indexed

end Store

end MarkupTemplates
