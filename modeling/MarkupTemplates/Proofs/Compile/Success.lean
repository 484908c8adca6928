import MarkupTemplates.Proofs.Compile.Resolve

/-!
# Assemblies that succeed

What it takes for each part of an assembly to succeed, and what it succeeds with.  An id that
compiles is sound (`Store.Indexed.sound_of_resolve`).
-/

namespace MarkupTemplates

open Markup (Node)

/-- A computation that goes on succeeds if both parts do. -/
theorem bind_eq_ok_iff {α β : Type} {x : ExceptT ResolutionError Id α}
    {f : α → ExceptT ResolutionError Id β} {b : β} :
    x >>= f = .ok b ↔ ∃ a, x = .ok a ∧ f a = .ok b := by
  cases x with
  | error e => exact ⟨nofun, nofun⟩
  | ok a => exact ⟨fun h => ⟨a, rfl, h⟩, fun ⟨_, ha, h⟩ => by cases ha; exact h⟩

section

variable {f : String → ExceptT ResolutionError Id Compiled} {id : String}

/-- A copy succeeds if its target does and its directives do on the target's tree. -/
theorem assembleBase_copy_eq_ok_iff {tid target : String} {directives : List Directive}
    {origin : Origin} {base : List Node × List Contributor} :
    assembleBase f id ⟨tid, .copy target directives, origin⟩ = .ok base ↔
      ∃ c, f target = .ok c ∧ ∃ tree, patchTree f id c.tree directives = .ok tree ∧
        base = (tree, c.contributors ++ [⟨tid, some .copy, origin⟩]) := by
  refine bind_eq_ok_iff.trans (exists_congr fun c => and_congr_right fun _ => ?_)
  refine bind_eq_ok_iff.trans (exists_congr fun tree => and_congr_right fun _ => ?_)
  exact ⟨fun h => by cases h; rfl, fun h => by rw [h]; rfl⟩

theorem assembleBase_root_eq_ok_iff {tid : String} {content : List Node} {origin : Origin}
    {base : List Node × List Contributor} :
    assembleBase f id ⟨tid, .root content, origin⟩ = .ok base ↔
      ∃ tree, expandAll (fun target => Compiled.tree <$> f target) content = .ok tree ∧
        base = (tree, [⟨tid, none, origin⟩]) := by
  refine bind_eq_ok_iff.trans (exists_congr fun tree => and_congr_right fun _ => ?_)
  exact ⟨fun h => by cases h; rfl, fun h => by rw [h]; rfl⟩

theorem foldlM_concat_eq_ok_iff {α β : Type} {g : β → α → ExceptT ResolutionError Id β}
    {as : List α} {a : α} {b after : β} :
    (as ++ [a]).foldlM g b = .ok after ↔ ∃ c, as.foldlM g b = .ok c ∧ g c a = .ok after := by
  rw [List.foldlM_append, bind_eq_ok_iff]
  refine exists_congr fun c => and_congr_right fun _ => ?_
  simp only [List.foldlM_cons, List.foldlM_nil, bind_pure]

/-- A layer succeeds if its directives do, and it is added to the contributors. -/
theorem assembleLayer_eq_ok_iff {layer : Template} {done after : List Node × List Contributor} :
    assembleLayer f id done layer = .ok after ↔
      ∃ tree, patchTree f id done.1 layer.directives = .ok tree ∧
        after = (tree, done.2 ++ [layer.contributor]) := by
  refine bind_eq_ok_iff.trans (exists_congr fun tree => and_congr_right fun _ => ?_)
  exact ⟨fun h => by cases h; rfl, fun h => by rw [h]; rfl⟩

/-- **What an assembly succeeds with**: the id is sound, and it is what its layers leave of what its
definition comes to. -/
theorem assemble_eq_ok_iff {s : Store} {c : Compiled} :
    assemble s f id = .ok c ↔ s.graph.Sound id ∧ ∃ t, s.definition? id = some t ∧
      ∃ base, assembleBase f id t = .ok base ∧
        ∃ done, (s.layers id).foldlM (assembleLayer f id) base = .ok done ∧
          c = ⟨id, done.1, done.2⟩ := by
  rw [assemble, bind_eq_ok_iff]
  constructor
  · rintro ⟨_, hcheck, h⟩
    refine ⟨Graph.checkFrom_eq_ok_iff.mp hcheck, ?_⟩
    cases ht : s.definition? id with
    | none => rw [ht] at h; cases h
    | some t =>
        rw [ht] at h
        obtain ⟨base, hbase, h⟩ := bind_eq_ok_iff.mp h
        obtain ⟨done, hdone, h⟩ := bind_eq_ok_iff.mp h
        cases h
        exact ⟨t, rfl, base, hbase, done, hdone, rfl⟩
  · rintro ⟨hsound, t, ht, base, hbase, done, hdone, hc⟩
    refine ⟨(), Graph.checkFrom_eq_ok_iff.mpr hsound, ?_⟩
    rw [ht]
    refine bind_eq_ok_iff.mpr ⟨base, hbase, bind_eq_ok_iff.mpr ⟨done, hdone, ?_⟩⟩
    rw [hc]
    rfl

end

namespace Store.Indexed

variable {s : Store} (hs : s.Indexed) {id : String} {c : Compiled}

include hs

/-- Only an id that the store knows compiles. -/
theorem knows_of_resolve (h : s.resolve id = .ok c) :
    s.knows id = true := by
  rw [hs.solves_resolve id] at h
  split at h
  · assumption
  · cases h

/-- An id that compiles is sound: what it reaches is defined, and it does not reach itself. -/
theorem sound_of_resolve (h : s.resolve id = .ok c) :
    s.graph.Sound id := by
  rw [hs.resolve_of_knows (hs.knows_of_resolve h)] at h
  exact (assemble_eq_ok_iff.mp h).1

end Store.Indexed

end MarkupTemplates
