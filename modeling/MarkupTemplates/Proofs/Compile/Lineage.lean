import MarkupTemplates.Proofs.Compile.Success
import MarkupTemplates.Proofs.Store.Log

/-!
# Lines of copies

The *line* of an id leads from a root over copies to the definition of the id, each a copy of the one
before it (`Store.Lineage`).  An id has at most one line, for it has at most one definition, and an
id that compiles has one (`Store.Indexed.exists_lineage`): the graph of a sound id has no circle, so
that copying what is a copy itself comes to an end.

* `contributors_of_assemble`: what one assembly adds to the contributors of the template it copies.
* `Store.Lineage.contributors_eq`: what all of them add, along the line.
-/

namespace MarkupTemplates

open Markup (Node)

namespace Store

/-- The line of an id: a root, and then copies, each of the one before it; the last one is the
definition of the id. -/
inductive Lineage (s : Store) : String → List Template → Prop where
  /-- A root is the line of its id. -/
  | root {id : String} {t : Template} {content : List Node} (ht : t ∈ s.templates)
      (hid : t.id = id) (hbody : t.body = .root content) : Lineage s id [t]
  /-- A copy comes behind the line of what it copies. -/
  | copy {id target : String} {t : Template} {directives : List Directive} {line : List Template}
      (ht : t ∈ s.templates) (hid : t.id = id) (hbody : t.body = .copy target directives)
      (h : Lineage s target line) : Lineage s id (line ++ [t])

/-- The layers of an id by ascending priority, those of one priority in the order of registration. -/
def layersByPriority (s : Store) (id : String) : List Template :=
  (s.templates.filter (Template.layersOn id)).mergeSort fun t u => t.priority ≤ u.priority

/-- The contributors that the templates of a line stand for: each of them, and behind it the layers
of its id. -/
def contributorsOf (s : Store) (line : List Template) : List Contributor :=
  line.flatMap fun t => (t :: s.layersByPriority t.id).map (·.contributor)

/-- The end of a line adds itself and its layers to the contributors. -/
theorem contributorsOf_concat {s : Store} {line : List Template} {t : Template} :
    s.contributorsOf (line ++ [t]) =
      s.contributorsOf line ++ (t :: s.layersByPriority t.id).map (·.contributor) := by
  rw [contributorsOf, contributorsOf, List.flatMap_append, List.flatMap_singleton]

end Store

/-! ### One assembly -/

section

variable {f : String → ExceptT ResolutionError Id Compiled} {id : String}

/-- Layers add themselves to the contributors, in their order. -/
theorem contributors_of_foldlM_assembleLayer {layers : List Template}
    {done after : List Node × List Contributor}
    (h : layers.foldlM (assembleLayer f id) done = .ok after) :
    after.2 = done.2 ++ layers.map (·.contributor) := by
  induction layers generalizing done with
  | nil =>
      cases h
      exact (List.append_nil _).symm
  | cons layer layers ih =>
      rw [List.foldlM_cons] at h
      obtain ⟨next, hnext, hrest⟩ := bind_eq_ok_iff.mp h
      obtain ⟨tree, -, rfl⟩ := assembleLayer_eq_ok_iff.mp hnext
      rw [ih hrest, List.map_cons, List.append_assoc, List.singleton_append]

/-- **What an assembly adds to the contributors**: behind those of the definition come those of the
layers. -/
theorem contributors_of_assemble {s : Store} {c : Compiled} (h : assemble s f id = .ok c) :
    ∃ t base, s.definition? id = some t ∧ assembleBase f id t = .ok base ∧
      c.contributors = base.2 ++ (s.layers id).map (·.contributor) := by
  obtain ⟨-, t, ht, base, hbase, done, hdone, rfl⟩ := assemble_eq_ok_iff.mp h
  exact ⟨t, base, ht, hbase, contributors_of_foldlM_assembleLayer hdone⟩

end

/-! ### Lines -/

namespace Store.Indexed

variable {s : Store} (hs : s.Indexed) {id : String} {t : Template} {c : Compiled}

include hs

theorem definition?_of_root {content : List Node} (ht : t ∈ s.templates) (hid : t.id = id)
    (hbody : t.body = .root content) : s.definition? id = some t :=
  (hs.definition?_eq_some_iff id t).mpr ⟨ht, by simp [Template.isLayer, Template.mode?, hbody], hid⟩

/-- A copy is the definition of its id. -/
theorem definition?_of_copy {target : String} {directives : List Directive}
    (ht : t ∈ s.templates) (hid : t.id = id) (hbody : t.body = .copy target directives) :
    s.definition? id = some t :=
  (hs.definition?_eq_some_iff id t).mpr ⟨ht, by simp [Template.isLayer, Template.mode?, hbody], hid⟩

/-- **An id has no second line.** -/
theorem lineage_unique {line other : List Template} (h : s.Lineage id line)
    (h' : s.Lineage id other) : other = line := by
  induction h generalizing other with
  | root ht hid hbody =>
      have hfirst := hs.definition?_of_root ht hid hbody
      cases h' with
      | root ht' hid' hbody' =>
          cases hfirst.symm.trans (hs.definition?_of_root ht' hid' hbody')
          rfl
      | copy ht' hid' hbody' _ =>
          cases hfirst.symm.trans (hs.definition?_of_copy ht' hid' hbody')
          cases hbody.symm.trans hbody'
  | copy ht hid hbody _ ih =>
      have hfirst := hs.definition?_of_copy ht hid hbody
      cases h' with
      | root ht' hid' hbody' =>
          cases hfirst.symm.trans (hs.definition?_of_root ht' hid' hbody')
          cases hbody.symm.trans hbody'
      | copy ht' hid' hbody' hrest =>
          cases hfirst.symm.trans (hs.definition?_of_copy ht' hid' hbody')
          cases hbody.symm.trans hbody'
          rw [ih hrest]

/-- **An id that compiles has a line**, whatever it copies. -/
theorem exists_lineage (h : s.resolve id = .ok c) : ∃ line, s.Lineage id line := by
  induction id using s.graph.dependency_induction generalizing c with
  | step id ih =>
      have hsound := hs.sound_of_resolve h
      rw [hs.resolve_of_knows (hs.knows_of_resolve h)] at h
      obtain ⟨⟨tid, body, origin⟩, base, hdefinition, hbase, -⟩ := contributors_of_assemble h
      obtain ⟨ht, hlayer, hid⟩ := (hs.definition?_eq_some_iff id _).mp hdefinition
      cases body with
      | root content => exact ⟨_, .root ht hid rfl⟩
      | copy target directives =>
          have hneeds : s.graph.Needs id target :=
            hs.needs_of_definition? hdefinition (by simp [Template.dependencies, Template.copied?])
          obtain ⟨copied, hcopied, -⟩ := assembleBase_copy_eq_ok_iff.mp hbase
          obtain ⟨line, hline⟩ := ih hsound target hneeds hcopied
          exact ⟨_, .copy ht hid rfl hline⟩
      | layer target priority directives => cases hlayer

end Store.Indexed

namespace Store

/-- **The contributors of a compiled template are those of its line.** -/
theorem Lineage.contributors_eq {s : Store} {id : String} {line : List Template} {c : Compiled}
    (h : s.Lineage id line) (hs : s.Registered) (hc : s.resolve id = .ok c) :
    c.contributors = s.contributorsOf line := by
  have hindexed := hs.indexed
  induction h generalizing c with
  | @root id t content ht hid hbody =>
      rw [hindexed.resolve_of_knows (hindexed.knows_of_resolve hc)] at hc
      obtain ⟨definition, base, hdefinition, hbase, hcontributors⟩ := contributors_of_assemble hc
      cases hdefinition.symm.trans (hindexed.definition?_of_root ht hid hbody)
      obtain ⟨tid, body, origin⟩ := t
      subst hid hbody
      obtain ⟨tree, -, rfl⟩ := assembleBase_root_eq_ok_iff.mp hbase
      rw [hcontributors, hs.layers_eq, contributorsOf, List.flatMap_singleton]
      rfl
  | @copy id target t directives line ht hid hbody _ ih =>
      rw [hindexed.resolve_of_knows (hindexed.knows_of_resolve hc)] at hc
      obtain ⟨definition, base, hdefinition, hbase, hcontributors⟩ := contributors_of_assemble hc
      cases hdefinition.symm.trans (hindexed.definition?_of_copy ht hid hbody)
      obtain ⟨tid, body, origin⟩ := t
      subst hid hbody
      obtain ⟨copied, hcopied, tree, -, rfl⟩ := assembleBase_copy_eq_ok_iff.mp hbase
      rw [hcontributors, hs.layers_eq, ih hcopied, contributorsOf_concat, List.append_assoc]
      rfl

end Store

end MarkupTemplates
