import MarkupTemplates.Proofs.Compile.Errors
import MarkupTemplates.Proofs.Store.Minified

/-!
# Compiling minified templates

An id of a store with minified templates compiles to the minified tree, or fails with the same error
(`Store.Indexed.tracks_resolve`), unless the directive at which compiling fails sets attributes and
is refused for blank text in its attribute elements (`Store.RefusesBlank`).  To say which directive
that is, both runs are followed up to the step at which the first one stops.
-/

namespace MarkupTemplates

open Markup (Node)

/-- The compiled template with its tree minified. -/
def Compiled.minified (c : Compiled) : Compiled := { c with tree := Markup.minified c.tree }

/-- The directive at which an id of the store fails with the error is refused for blank text in the
attribute elements of its payload, whose includes are replaced.  There is no other directive with
this error (`Store.Refuses.eq_of_error`). -/
def Store.RefusesBlank (s : Store) (e : ResolutionError) : Prop :=
  ∃ id t d, s.Refuses s.resolve id t d e ∧ d.HoldsBlank

/-- What is refused for blank text is refused as a payload that holds something other than attribute
elements. -/
theorem Store.RefusesBlank.exists_id {s : Store} {e : ResolutionError} (h : s.RefusesBlank e) :
    ∃ id, e = .invalidPayload id .setAttributes .notAttributes := by
  obtain ⟨id, t, d, hrefuses, hblank⟩ := h
  obtain ⟨tree, hfails⟩ := hrefuses.exists_apply
  exact ⟨id, Except.error.inj (hfails.symm.trans (hblank.apply_eq id tree))⟩

/-! ### Putting a template together -/

section

variable {excuse : ResolutionError → Prop}
  {compile compile' : String → ExceptT ResolutionError Id Compiled} (id : String)

/-- What is said of compiled templates holds of their trees. -/
theorem Tracks.tree {target : String}
    (h : Tracks excuse Compiled.minified (compile target) (compile' target)) :
    Tracks excuse Markup.minified
      (Compiled.tree <$> compile target : ExceptT ResolutionError Id (List Node))
      (Compiled.tree <$> compile' target : ExceptT ResolutionError Id (List Node)) := by
  rw [map_eq_pure_bind, map_eq_pure_bind, bind_exceptT, bind_exceptT]
  exact h.bind fun c _ => .ok _

/-- Directives are applied to a minified tree as to the tree, unless the first one that fails is
refused for blank text. -/
theorem tracks_patchTree (tree : List Node) {directives : List Directive}
    (h : ∀ target ∈ (directives.map (·.payload)).flatMap includesIn,
      Tracks excuse Compiled.minified (compile target) (compile' target)) :
    Tracks (fun e => excuse e ∨ ∃ d, PatchRefuses compile id tree directives d e ∧ d.HoldsBlank)
      Markup.minified (patchTree (m := Id) compile id tree directives)
      (patchTree (m := Id) compile' id (Markup.minified tree)
        (directives.map Directive.minified)) := by
  rw [patchTree, patchTree, bind_exceptT, bind_exceptT, mapM_exceptT, mapM_exceptT]
  have hexpand : ∀ d ∈ directives, Tracks excuse Directive.minified
      (d.expand (m := ExceptT ResolutionError Id) fun target => Compiled.tree <$> compile target)
      (d.minified.expand (m := ExceptT ResolutionError Id)
        fun target => Compiled.tree <$> compile' target) := by
    refine fun d hd => Directive.tracks_expand fun target ht => (h target ?_).tree
    exact List.mem_flatMap.mpr ⟨_, List.mem_map_of_mem hd, ht⟩
  refine ((Tracks.mapM hexpand).mono fun _ _ => .inl).bind fun expanded hexpanded => ?_
  refine tracks_applyAll.mono ?_
  rintro e - ⟨before, d, hstops, hblank⟩
  exact .inr ⟨d, ⟨expanded, before, mapM_exceptT.trans hexpanded, hstops⟩, hblank⟩

/-- A minified definition comes to the minified tree, unless it is a copy and the first of its
directives that fails is refused for blank text. -/
theorem tracks_assembleBase {t : Template}
    (h : ∀ target ∈ t.dependencies,
      Tracks excuse Compiled.minified (compile target) (compile' target)) :
    Tracks (fun e => excuse e ∨ ∃ target directives c d, t.body = .copy target directives ∧
        compile target = .ok c ∧ PatchRefuses compile id c.tree directives d e ∧ d.HoldsBlank)
      (fun done => (Markup.minified done.1, done.2))
      (assembleBase (m := Id) compile id t) (assembleBase (m := Id) compile' id t.minified) := by
  obtain ⟨tid, body, origin⟩ := t
  cases body with
  | root content =>
      simp only [assembleBase, Template.minified, Body.minified, bind_exceptT]
      have hincludes : ∀ target ∈ includesIn content,
          Tracks excuse Compiled.minified (compile target) (compile' target) := by
        refine fun target ht => h target ?_
        simpa [Template.dependencies, Template.includes, Template.parts, Template.copied?] using ht
      have htree := tracks_expandAll fun target ht => (hincludes target ht).tree
      exact (htree.mono fun _ _ => .inl).bind fun tree _ => .ok _
  | copy target directives =>
      simp only [assembleBase, Template.minified, Body.minified, bind_exceptT]
      have htarget := h target (by simp [Template.dependencies, Template.copied?])
      refine (htarget.mono fun _ _ => .inl).bind fun base hbase => ?_
      have htree := tracks_patchTree id base.tree fun target ht =>
        h target (Template.mem_dependencies_of_mem_payloads ht)
      refine (htree.mono ?_).bind fun tree _ => .ok _
      rintro e - (he | ⟨d, hrefuses, hblank⟩)
      · exact .inl he
      · exact .inr ⟨target, directives, base, d, rfl, hbase, hrefuses, hblank⟩
  | layer target priority directives => exact .ok _

/-- A minified layer does the same to the minified tree, unless the first of its directives that
fails is refused for blank text. -/
theorem tracks_assembleLayer (done : List Node × List Contributor) {layer : Template}
    (h : ∀ target ∈ layer.dependencies,
      Tracks excuse Compiled.minified (compile target) (compile' target)) :
    Tracks (fun e => excuse e ∨
        ∃ d, PatchRefuses compile id done.1 layer.directives d e ∧ d.HoldsBlank)
      (fun done => (Markup.minified done.1, done.2))
      (assembleLayer (m := Id) compile id done layer)
      (assembleLayer (m := Id) compile' id (Markup.minified done.1, done.2) layer.minified) := by
  rw [assembleLayer, assembleLayer, bind_exceptT, bind_exceptT, Template.minified_directives]
  refine (tracks_patchTree id done.1 fun target ht => h target ?_).bind fun tree _ => .of_eq ?_
  · exact Template.mem_dependencies_of_mem_payloads ht
  · rw [Template.contributor, Template.minified_mode?]
    rfl

end

/-! ### Compiling -/

namespace Store.Indexed

variable {s : Store}

/-- An id is put together in the minified store as in the store, unless it fails at a directive that
is refused for blank text. -/
theorem tracks_assemble {compile' : String → ExceptT ResolutionError Id Compiled} {id : String}
    (hs : s.Indexed) (h : s.graph.Sound id → ∀ target, s.graph.Needs id target →
      Tracks s.RefusesBlank Compiled.minified (s.resolve target) (compile' target)) :
    Tracks s.RefusesBlank Compiled.minified (assemble (m := Id) s s.resolve id)
      (assemble (m := Id) s.minified compile' id) := by
  rw [assemble, assemble, graph_minified, definition?_minified, bind_exceptT, bind_exceptT]
  cases hcheck : s.graph.checkFrom id with
  | error e => exact .error e
  | ok _ =>
      have hneeds := h (Graph.checkFrom_eq_ok_iff.mp hcheck)
      refine .bind_same fun _ => ?_
      cases ht : s.definition? id with
      | none => exact .error _
      | some t =>
          simp only [Option.map_some, bind_exceptT, foldlM_exceptT, layers_minified]
          have hbase := tracks_assembleBase id
            fun d hd => hneeds d (hs.needs_of_definition? ht hd)
          have hlayer := fun layer (hl : layer ∈ s.layers id) done => tracks_assembleLayer id done
            fun d hd => hneeds d (hs.needs_of_mem_layers hl hd)
          refine (hbase.mono ?_).bind fun base hbase => ?_
          · rintro e - (he | ⟨target, directives, c, d, hbody, hc, hrefuses, hblank⟩)
            · exact he
            · exact ⟨id, t, d, .copy ht hbody hc hrefuses, hblank⟩
          · refine ((Tracks.foldlM hlayer base).mono ?_).bind fun done _ => .ok _
            rintro e - ⟨done, layer, hstops, he | ⟨d, hrefuses, hblank⟩⟩
            · exact he
            · exact ⟨id, layer, d, .layer ht hbase hstops hrefuses, hblank⟩

/-- **A minified store compiles an id to the minified tree**, unless an attribute setting is
refused for blank text. -/
theorem tracks_resolve (hs : s.Indexed) (hs' : s.minified.Indexed) (id : String) :
    Tracks s.RefusesBlank Compiled.minified (s.resolve id) (s.minified.resolve id) := by
  induction id using s.graph.dependency_induction with
  | step id ih =>
      rw [hs.solves_resolve id, hs'.solves_resolve id, knows_minified]
      split
      · exact hs.tracks_assemble ih
      · exact .error _

end Store.Indexed

end MarkupTemplates
