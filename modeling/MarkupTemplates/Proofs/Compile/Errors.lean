import MarkupTemplates.Proofs.Compile.Success
import MarkupTemplates.Proofs.Template.Expansion
import MarkupTemplates.Proofs.Template.Rewriting
import MarkupTemplates.Proofs.Tracks

/-!
# Where an error comes from

An assembly that fails says why: the check of its id failed, an id that it needs failed with the
same error, or a directive at work on it did, the first one that fails (`Store.Refuses`).

* `Store.Refuses.unique`, `Store.Refuses.eq_of_error`: putting an id together fails at one directive
  at most, and its error says at which.
* `Store.Indexed.error_of_assemble`: there is no other way to fail than the three.
* `Store.Indexed.error_of_resolve`: so what goes wrong with a sound id is always a directive of
  something that the id reaches.
-/

namespace MarkupTemplates

open Markup (Node)

/-- The error is one of a directive at work on the template `id`. -/
inductive ResolutionError.OfDirective (id : String) : ResolutionError → Prop where
  /-- The path addresses several elements. -/
  | ambiguousTarget (path : String) (count : Nat) : OfDirective id (.ambiguousTarget id path count)
  /-- The path addresses nothing. -/
  | targetNotFound (path : String) : OfDirective id (.targetNotFound id path)
  /-- The payload does not fit the action. -/
  | invalidPayload (action : Action) (fault : PayloadFault) :
      OfDirective id (.invalidPayload id action fault)

/-- An error of a directive names one template. -/
theorem ResolutionError.OfDirective.eq_of_ofDirective {id id' : String} {e : ResolutionError}
    (h : e.OfDirective id) (h' : e.OfDirective id') : id = id' := by
  cases h <;> cases h' <;> rfl

/-- A computation that goes on fails if it does, or if what it goes on with does. -/
theorem bind_eq_error_iff {α β : Type} {x : ExceptT ResolutionError Id α}
    {f : α → ExceptT ResolutionError Id β} {e : ResolutionError} :
    x >>= f = .error e ↔ x = .error e ∨ ∃ a, x = .ok a ∧ f a = .error e := by
  cases x with
  | error e' =>
      constructor
      · intro h; cases h; exact .inl rfl
      · rintro (h | ⟨_, ha, -⟩)
        · cases h; rfl
        · cases ha
  | ok a =>
      constructor
      · exact fun h => .inr ⟨a, rfl, h⟩
      · rintro (h | ⟨_, ha, h⟩)
        · cases h
        · cases ha; exact h

/-! ### Directives -/

variable {id : String} {e : ResolutionError}

theorem Directive.ofDirective_of_apply {nodes : List Node} {d : Directive}
    (h : d.apply id nodes = .error e) : e.OfDirective id := by
  rw [apply_eq] at h
  split at h
  · cases h; exact .invalidPayload _ _
  · split at h
    · cases h; exact .targetNotFound _
    · split at h
      · cases h; exact .ambiguousTarget _ _
      · cases h

/-! ### Includes -/

section

variable {f : String → Node → ExceptT ResolutionError Id (List Node)}

mutual

/-- A node whose includes cannot be replaced includes something there is no tree of. -/
theorem error_of_replaceIncludesNode : ∀ n : Node, replaceIncludesNode f n = .error e →
    ∃ d ∈ includesInNode n, ∃ i, f d i = .error e
  | .text content, h => by rw [replaceIncludesNode] at h; cases h
  | .element tag attributes children, h => by
      rw [replaceIncludesNode] at h
      rw [includesInNode]
      split at h
      · rename_i htag
        cases hid : attributes.get? includeKey with
        | none => rw [hid] at h; cases h
        | some target =>
            rw [hid] at h
            exact ⟨target, List.mem_append_left _ (by simp [htag]), _, h⟩
      · rcases bind_eq_error_iff.mp h with h | ⟨_, -, h⟩
        · obtain ⟨d, hd, hf⟩ := error_of_replaceIncludes children h
          exact ⟨d, List.mem_append_right _ hd, hf⟩
        · cases h

/-- **Nodes whose includes cannot be replaced** include something there is no tree of. -/
theorem error_of_replaceIncludes : ∀ ns : List Node, replaceIncludes f ns = .error e →
    ∃ d ∈ includesIn ns, ∃ i, f d i = .error e
  | [], h => by rw [replaceIncludes] at h; cases h
  | n :: ns, h => by
      rw [replaceIncludes] at h
      rw [includesIn]
      rcases bind_eq_error_iff.mp h with h | ⟨_, -, h⟩
      · obtain ⟨d, hd, hf⟩ := error_of_replaceIncludesNode n h
        exact ⟨d, List.mem_append_left _ hd, hf⟩
      · rcases bind_eq_error_iff.mp h with h | ⟨_, -, h⟩
        · obtain ⟨d, hd, hf⟩ := error_of_replaceIncludes ns h
          exact ⟨d, List.mem_append_right _ hd, hf⟩
        · cases h

end

end

/-! ### Templates -/

section

variable {f : String → ExceptT ResolutionError Id Compiled}

/-- Content whose includes cannot be replaced includes a template that does not compile. -/
theorem error_of_expandAll {nodes : List Node}
    (h : expandAll (fun target => Compiled.tree <$> f target) nodes = .error e) :
    ∃ d ∈ includesIn nodes, f d = .error e := by
  rw [expandAll_eq] at h
  obtain ⟨d, hd, -, hf⟩ := error_of_replaceIncludes nodes h
  change Compiled.tree <$> f d = .error e at hf
  rw [map_eq_pure_bind] at hf
  rcases bind_eq_error_iff.mp hf with hf | ⟨_, -, hf⟩
  · exact ⟨d, hd, hf⟩
  · cases hf

/-- The directives, with the includes of their payloads replaced by what `f` answers, are applied to
the tree one after the other, and the first one that fails is `d`, with the error `e`. -/
def PatchRefuses (f : String → ExceptT ResolutionError Id Compiled) (id : String)
    (tree : List Node) (directives : List Directive) (d : Directive) (e : ResolutionError) : Prop :=
  ∃ expanded before,
    directives.mapM (Directive.expand fun target => Compiled.tree <$> f target) = .ok expanded ∧
      StopsAt (Directive.apply id) tree expanded before d e

namespace PatchRefuses

variable {tree : List Node} {directives : List Directive} {d d' : Directive}
  {e' : ResolutionError}

/-- The directive fails on the tree that the directives before it have left. -/
theorem exists_apply (h : PatchRefuses f id tree directives d e) :
    ∃ before, d.apply id before = .error e := by
  obtain ⟨_, before, -, hstops⟩ := h
  exact ⟨before, hstops.fails⟩

theorem patchTree_eq (h : PatchRefuses f id tree directives d e) :
    patchTree f id tree directives = .error e := by
  obtain ⟨expanded, before, hexpanded, hstops⟩ := h
  refine bind_eq_error_iff.mpr (.inr ⟨expanded, hexpanded, ?_⟩)
  exact foldlM_eq_error_iff.mpr ⟨before, d, hstops⟩

/-- Of several directives only the first one that fails is refused. -/
theorem unique (h : PatchRefuses f id tree directives d e)
    (h' : PatchRefuses f id tree directives d' e') : d = d' ∧ e = e' := by
  obtain ⟨expanded, before, hexpanded, hstops⟩ := h
  obtain ⟨expanded', before', hexpanded', hstops'⟩ := h'
  cases hexpanded.symm.trans hexpanded'
  exact (hstops.unique hstops').2

end PatchRefuses

/-- Directives fail by an include of a payload or by one of them. -/
theorem error_of_patchTree {tree : List Node} {directives : List Directive}
    (h : patchTree f id tree directives = .error e) :
    (∃ d ∈ (directives.map (·.payload)).flatMap includesIn, f d = .error e) ∨
      ∃ d, PatchRefuses f id tree directives d e := by
  rcases bind_eq_error_iff.mp h with hexpand | ⟨expanded, hexpanded, h⟩
  · left
    rw [mapM_exceptT] at hexpand
    obtain ⟨directive, hmem, hfails⟩ := exists_of_mapM_eq_error hexpand
    rcases bind_eq_error_iff.mp hfails with h | ⟨_, -, h⟩
    · obtain ⟨d, hd, hf⟩ := error_of_expandAll h
      exact ⟨d, List.mem_flatMap.mpr ⟨_, List.mem_map_of_mem hmem, hd⟩, hf⟩
    · cases h
  · obtain ⟨before, d, hstops⟩ := foldlM_eq_error_iff.mp h
    exact .inr ⟨d, expanded, before, hexpanded, hstops⟩

/-- A definition fails by a template that it depends on or by a directive, and then it is a copy. -/
theorem error_of_assembleBase {t : Template} (h : assembleBase f id t = .error e) :
    (∃ d ∈ t.dependencies, f d = .error e) ∨ ∃ target directives c d,
      t.body = .copy target directives ∧ f target = .ok c ∧
        PatchRefuses f id c.tree directives d e := by
  obtain ⟨tid, body, origin⟩ := t
  cases body with
  | root content =>
      rcases bind_eq_error_iff.mp h with h | ⟨_, -, h⟩
      · obtain ⟨d, hd, hf⟩ := error_of_expandAll h
        refine .inl ⟨d, ?_, hf⟩
        simpa [Template.dependencies, Template.includes, Template.parts, Template.copied?] using hd
      · cases h
  | copy target directives =>
      rcases bind_eq_error_iff.mp h with h | ⟨base, hbase, h⟩
      · exact .inl ⟨target, by simp [Template.dependencies, Template.copied?], h⟩
      · rcases bind_eq_error_iff.mp h with h | ⟨_, -, h⟩
        · rcases error_of_patchTree h with ⟨d, hd, hf⟩ | ⟨d, hrefuses⟩
          · exact .inl ⟨d, Template.mem_dependencies_of_mem_payloads hd, hf⟩
          · exact .inr ⟨target, directives, base, d, rfl, hbase, hrefuses⟩
        · cases h
  | layer target priority directives => cases h

/-- A layer fails by a template that it depends on or by one of its directives. -/
theorem error_of_assembleLayer {t : Template} {done : List Node × List Contributor}
    (h : assembleLayer f id done t = .error e) :
    (∃ d ∈ t.dependencies, f d = .error e) ∨
      ∃ d, PatchRefuses f id done.1 t.directives d e := by
  rcases bind_eq_error_iff.mp h with h | ⟨_, -, h⟩
  · rcases error_of_patchTree h with ⟨d, hd, hf⟩ | hrefuses
    · exact .inl ⟨d, Template.mem_dependencies_of_mem_payloads hd, hf⟩
    · exact .inr hrefuses
  · cases h

/-! ### Ids -/

/-- The store's id is put together out of what `f` answers, and the first directive that fails is `d`,
one of the template `t` with the includes of its payload replaced; `e` is its error. -/
inductive Store.Refuses (s : Store) (f : String → ExceptT ResolutionError Id Compiled)
    (id : String) : Template → Directive → ResolutionError → Prop where
  /-- The id is a copy, and one of its directives fails on the tree of its target. -/
  | copy {t : Template} {target : String} {directives : List Directive} {c : Compiled}
      {d : Directive} {e : ResolutionError} :
      s.definition? id = some t → t.body = .copy target directives → f target = .ok c →
        PatchRefuses f id c.tree directives d e → s.Refuses f id t d e
  /-- The definition is put together, and after it the layers before `t`; then a directive of `t`
  fails. -/
  | layer {definition t : Template} {base done : List Node × List Contributor} {d : Directive}
      {e : ResolutionError} :
      s.definition? id = some definition → assembleBase f id definition = .ok base →
        StopsAt (assembleLayer f id) base (s.layers id) done t e →
          PatchRefuses f id done.1 t.directives d e → s.Refuses f id t d e

namespace Store.Refuses

variable {s : Store} {t t' : Template} {d d' : Directive} {e' : ResolutionError}

/-- The directive fails on the tree that those before it have left. -/
theorem exists_apply (h : s.Refuses f id t d e) : ∃ before, d.apply id before = .error e := by
  cases h with
  | copy _ _ _ hpatch => exact hpatch.exists_apply
  | layer _ _ _ hpatch => exact hpatch.exists_apply

/-- The error names the id and is one of directives. -/
theorem ofDirective (h : s.Refuses f id t d e) : e.OfDirective id := by
  obtain ⟨before, hfails⟩ := h.exists_apply
  exact Directive.ofDirective_of_apply hfails

/-- A definition that is put together has no directive that fails. -/
theorem assembleBase_ne_ok {target : String} {directives : List Directive} {c : Compiled}
    {base : List Node × List Contributor} (hbody : t.body = .copy target directives)
    (hc : f target = .ok c) (h : PatchRefuses f id c.tree directives d e) :
    assembleBase f id t ≠ .ok base := by
  obtain ⟨tid, body, origin⟩ := t
  cases hbody
  intro hbase
  obtain ⟨c', hc', tree, htree, -⟩ := assembleBase_copy_eq_ok_iff.mp hbase
  cases hc.symm.trans hc'
  cases h.patchTree_eq.symm.trans htree

/-- **Putting an id together fails at one directive at most.** -/
theorem unique (h : s.Refuses f id t d e) (h' : s.Refuses f id t' d' e') :
    t = t' ∧ d = d' ∧ e = e' := by
  cases h with
  | copy hdef hbody hc hpatch =>
      cases h' with
      | copy hdef' hbody' hc' hpatch' =>
          cases hdef.symm.trans hdef'
          cases hbody.symm.trans hbody'
          cases hc.symm.trans hc'
          exact ⟨rfl, hpatch.unique hpatch'⟩
      | layer hdef' hbase' _ _ =>
          cases hdef.symm.trans hdef'
          exact absurd hbase' (assembleBase_ne_ok hbody hc hpatch)
  | layer hdef hbase hstops hpatch =>
      cases h' with
      | copy hdef' hbody' hc' hpatch' =>
          cases hdef.symm.trans hdef'
          exact absurd hbase (assembleBase_ne_ok hbody' hc' hpatch')
      | layer hdef' hbase' hstops' hpatch' =>
          cases hdef.symm.trans hdef'
          cases hbase.symm.trans hbase'
          obtain ⟨rfl, rfl, -⟩ := hstops.unique hstops'
          exact ⟨rfl, hpatch.unique hpatch'⟩

/-- **An error of a directive says which one it is of**: it names the id, and there it is of one
directive only. -/
theorem eq_of_error {id' : String} (h : s.Refuses f id t d e) (h' : s.Refuses f id' t' d' e) :
    id = id' ∧ t = t' ∧ d = d' := by
  have hid : id = id' := h.ofDirective.eq_of_ofDirective h'.ofDirective
  subst hid
  obtain ⟨ht, hd, -⟩ := h.unique h'
  exact ⟨rfl, ht, hd⟩

end Store.Refuses

/-- **Where the error of an assembly comes from**: the check of the id, an id that it needs, or a
directive. -/
theorem Store.Indexed.error_of_assemble {s : Store} (hs : s.Indexed)
    (h : assemble s f id = .error e) :
    s.graph.checkFrom id = .error e ∨ (∃ d, s.graph.Needs id d ∧ f d = .error e) ∨
      ∃ t d, s.Refuses f id t d e := by
  rw [assemble] at h
  rcases bind_eq_error_iff.mp h with h | ⟨_, hcheck, h⟩
  · exact .inl h
  right
  cases hdef : s.definition? id with
  | none =>
      -- the check has found a definition
      have hsound := (Graph.checkFrom_eq_ok_iff.mp hcheck).isDefined
      rw [graph_isDefined, hdef] at hsound; cases hsound
  | some t =>
      rw [hdef] at h
      rcases bind_eq_error_iff.mp h with h | ⟨base, hbase, h⟩
      · rcases error_of_assembleBase h with ⟨d, hd, hf⟩ | ⟨target, directives, c, d, hbody, hc, hd⟩
        · exact .inl ⟨d, hs.needs_of_definition? hdef hd, hf⟩
        · exact .inr ⟨t, d, .copy hdef hbody hc hd⟩
      · rcases bind_eq_error_iff.mp h with h | ⟨_, -, h⟩
        · rw [foldlM_exceptT] at h
          obtain ⟨done, layer, hstops⟩ := foldlM_eq_error_iff.mp h
          rcases error_of_assembleLayer hstops.fails with ⟨d, hd, hf⟩ | ⟨d, hd⟩
          · exact .inl ⟨d, hs.needs_of_mem_layers hstops.mem hd, hf⟩
          · exact .inr ⟨layer, d, .layer hdef hbase hstops hd⟩
        · cases h

end

/-- **What goes wrong with a sound id** is a directive of something that the id reaches. -/
theorem Store.Indexed.error_of_resolve {s : Store} (hs : s.Indexed) (id : String) :
    s.graph.Sound id → ∀ e, s.resolve id = .error e →
      ∃ x, s.graph.Reaches id x ∧ ∃ t d, s.Refuses s.resolve x t d e := by
  induction id using s.graph.dependency_induction with
  | step id ih =>
      intro hsound e he
      have hk : s.knows id = true := by
        rw [← graph_isKnown]; exact Graph.isKnown_of_isDefined hsound.isDefined
      rw [hs.resolve_of_knows hk] at he
      rcases hs.error_of_assemble he with he | ⟨d, hd, he⟩ | hrefuses
      · rw [Graph.checkFrom_eq_ok_iff.mpr hsound] at he; cases he
      · obtain ⟨x, hx, hex⟩ := ih hsound d hd (hsound.of_needs hd) e he
        exact ⟨x, .head hd hx, hex⟩
      · exact ⟨id, .refl, hrefuses⟩

end MarkupTemplates
