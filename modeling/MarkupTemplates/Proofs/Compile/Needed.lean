import MarkupTemplates.Proofs.Compile.Success
import MarkupTemplates.Proofs.Template.Expansion

/-!
# What a successful compilation has asked for

An assembly asks for no id that its id does not need (`Simulation.assemble`).  If the includes of
its templates are sound, an assembly that succeeds has asked for all of them and got an answer each
time (`Store.Indexed.answered_of_assemble`): no include is passed over, wherever it stands.  So an id
that compiles reaches only ids that compile (`Store.Indexed.resolve_of_reaches`).
-/

namespace MarkupTemplates

open Markup (Node)

/-! ### Includes -/

section

variable {f : String → Node → ExceptT ResolutionError Id (List Node)}

mutual

/-- A node whose includes are replaced has been answered for each of them, if they are sound. -/
theorem answered_of_replaceIncludesNode : ∀ (n : Node) {after : List Node}, SoundInclude n →
    replaceIncludesNode f n = .ok after → ∀ d ∈ includesInNode n, ∃ i tree, f d i = .ok tree
  | .text content, _, _, _, d, hd => by simp [includesInNode] at hd
  | .element tag attributes children, after, hsound, h, d, hd => by
      rw [replaceIncludesNode] at h
      rw [includesInNode] at hd
      by_cases htag : tag = includeTag
      · -- a sound include names one template, and there is nothing in it that is passed over
        obtain ⟨hkey, rfl⟩ := hsound.1 htag
        obtain ⟨target, htarget⟩ := Option.isSome_iff_exists.mp hkey
        simp only [htag, if_true, htarget, includesIn, List.append_nil, Option.toList_some,
          List.mem_singleton] at h hd
        subst hd
        exact ⟨_, _, h⟩
      · rw [if_neg htag] at h hd
        obtain ⟨replaced, hreplaced, -⟩ := bind_eq_ok_iff.mp h
        exact answered_of_replaceIncludes children hsound.2 hreplaced d hd

/-- **Each include of sound nodes was asked for** if all of them could be replaced. -/
theorem answered_of_replaceIncludes : ∀ (ns : List Node) {after : List Node}, SoundIncludes ns →
    replaceIncludes f ns = .ok after → ∀ d ∈ includesIn ns, ∃ i tree, f d i = .ok tree
  | [], _, _, _, d, hd => by simp [includesIn] at hd
  | n :: ns, after, hsound, h, d, hd => by
      rw [replaceIncludes] at h
      obtain ⟨here, hhere, h⟩ := bind_eq_ok_iff.mp h
      obtain ⟨rest, hrest, -⟩ := bind_eq_ok_iff.mp h
      rw [includesIn] at hd
      rcases List.mem_append.mp hd with hd | hd
      · exact answered_of_replaceIncludesNode n hsound.1 hhere d hd
      · exact answered_of_replaceIncludes ns hsound.2 hrest d hd

end

end

/-! ### Templates -/

section

variable {f : String → ExceptT ResolutionError Id Compiled} {id d : String}

theorem answered_of_expandAll {nodes after : List Node} (hsound : SoundIncludes nodes)
    (h : expandAll (fun target => Compiled.tree <$> f target) nodes = .ok after)
    (hd : d ∈ includesIn nodes) : ∃ c, f d = .ok c := by
  rw [expandAll_eq] at h
  obtain ⟨-, tree, htree⟩ := answered_of_replaceIncludes nodes hsound h d hd
  change Compiled.tree <$> f d = .ok tree at htree
  rw [map_eq_pure_bind] at htree
  obtain ⟨c, hc, -⟩ := bind_eq_ok_iff.mp htree
  exact ⟨c, hc⟩

/-- Directives that succeed include only templates that compile. -/
theorem answered_of_patchTree {tree after : List Node} {directives : List Directive}
    (hsound : ∀ nodes ∈ directives.map (·.payload), SoundIncludes nodes)
    (h : patchTree f id tree directives = .ok after)
    (hd : d ∈ (directives.map (·.payload)).flatMap includesIn) : ∃ c, f d = .ok c := by
  obtain ⟨expanded, hexpanded, -⟩ := bind_eq_ok_iff.mp h
  clear h
  induction directives generalizing expanded with
  | nil => simp at hd
  | cons directive rest ih =>
      rw [List.mapM_cons] at hexpanded
      obtain ⟨first, hfirst, hexpanded⟩ := bind_eq_ok_iff.mp hexpanded
      obtain ⟨others, hothers, -⟩ := bind_eq_ok_iff.mp hexpanded
      rw [List.map_cons, List.flatMap_cons] at hd
      obtain ⟨hdirective, hrest⟩ := List.forall_mem_cons.mp hsound
      rcases List.mem_append.mp hd with hd | hd
      · obtain ⟨payload, hpayload, -⟩ := bind_eq_ok_iff.mp hfirst
        exact answered_of_expandAll hdirective hpayload hd
      · exact ih hrest hd others hothers

/-- A definition that is put together depends only on templates that compile. -/
theorem answered_of_assembleBase {t : Template} {base : List Node × List Contributor}
    (hlayer : t.isLayer = false) (hsound : ∀ nodes ∈ t.parts, SoundIncludes nodes)
    (h : assembleBase f id t = .ok base) (hd : d ∈ t.dependencies) : ∃ c, f d = .ok c := by
  obtain ⟨tid, body, origin⟩ := t
  cases body with
  | root content =>
      obtain ⟨tree, htree, -⟩ := bind_eq_ok_iff.mp h
      have hd : d ∈ includesIn content := by
        simpa [Template.dependencies, Template.copied?, Template.includes, Template.parts] using hd
      exact answered_of_expandAll (hsound content List.mem_cons_self) htree hd
  | copy target directives =>
      obtain ⟨c, hc, tree, htree, -⟩ := assembleBase_copy_eq_ok_iff.mp h
      have hd : d = target ∨ d ∈ (directives.map (·.payload)).flatMap includesIn := by
        simpa [Template.dependencies, Template.copied?, Template.includes, Template.parts] using hd
      rcases hd with rfl | hd
      · exact ⟨c, hc⟩
      · exact answered_of_patchTree hsound htree hd
  | layer target priority directives => simp [Template.isLayer, Template.mode?] at hlayer

theorem answered_of_assembleLayer {layer : Template} {done after : List Node × List Contributor}
    (hlayer : layer.isLayer = true) (hsound : ∀ nodes ∈ layer.parts, SoundIncludes nodes)
    (h : assembleLayer f id done layer = .ok after) (hd : d ∈ layer.dependencies) :
    ∃ c, f d = .ok c := by
  obtain ⟨tree, htree, -⟩ := assembleLayer_eq_ok_iff.mp h
  obtain ⟨tid, body, origin⟩ := layer
  cases body with
  | root content => simp [Template.isLayer, Template.mode?] at hlayer
  | copy target directives => simp [Template.isLayer, Template.mode?] at hlayer
  | layer target priority directives =>
      have hd : d ∈ (directives.map (·.payload)).flatMap includesIn := by
        simpa [Template.dependencies, Template.copied?, Template.includes, Template.parts] using hd
      exact answered_of_patchTree hsound htree hd

/-- If all layers are applied, each of them is. -/
theorem exists_of_foldlM_assembleLayer {layers : List Template} {layer : Template} :
    ∀ {done after : List Node × List Contributor}, layer ∈ layers →
      layers.foldlM (assembleLayer f id) done = .ok after →
      ∃ before next, assembleLayer f id before layer = .ok next := by
  induction layers with
  | nil => intro done after hmem _; cases hmem
  | cons first rest ih =>
      intro done after hmem h
      rw [List.foldlM_cons] at h
      obtain ⟨next, hnext, h⟩ := bind_eq_ok_iff.mp h
      rcases List.mem_cons.mp hmem with rfl | hmem
      · exact ⟨done, next, hnext⟩
      · exact ih hmem h

end

/-! ### Compiling -/

namespace Store

/-- The includes in all templates of an id are sound. -/
def SoundAt (s : Store) (id : String) : Prop :=
  ∀ t ∈ s.templates, t.id = id → ∀ nodes ∈ t.parts, SoundIncludes nodes

namespace Indexed

variable {s : Store} (hs : s.Indexed) {id d : String} {c : Compiled}

include hs

/-- **A successful assembly has asked for all that its id needs.** -/
theorem answered_of_assemble {f : String → ExceptT ResolutionError Id Compiled}
    (hsound : s.SoundAt id) (h : assemble s f id = .ok c) (hd : s.graph.Needs id d) :
    ∃ c, f d = .ok c := by
  obtain ⟨-, t, ht, base, hbase, done, hdone, -⟩ := assemble_eq_ok_iff.mp h
  obtain ⟨u, hu, rfl, hdep⟩ := hs.needs_iff.mp hd
  have hparts := hsound u hu rfl
  cases hlayer : u.isLayer with
  | false =>
      obtain rfl : u = t := by
        rw [(hs.definition?_eq_some_iff u.id u).mpr ⟨hu, hlayer, rfl⟩] at ht
        exact Option.some.inj ht
      exact answered_of_assembleBase hlayer hparts hbase hdep
  | true =>
      obtain ⟨before, next, hnext⟩ :=
        exists_of_foldlM_assembleLayer (hs.mem_layers_of_isLayer hu hlayer) hdone
      exact answered_of_assembleLayer hlayer hparts hnext hdep

/-- What a compiled id needs compiles as well. -/
theorem resolve_of_needs (hsound : s.SoundAt id) (h : s.resolve id = .ok c)
    (hd : s.graph.Needs id d) : ∃ c, s.resolve d = .ok c := by
  rw [hs.resolve_of_knows (hs.knows_of_resolve h)] at h
  exact hs.answered_of_assemble hsound h hd

/-- **An id that compiles reaches only ids that compile.** -/
theorem resolve_of_reaches (hsound : ∀ x, s.graph.Reaches id x → s.SoundAt x)
    (h : s.resolve id = .ok c) (hd : s.graph.Reaches id d) : ∃ c, s.resolve d = .ok c := by
  induction hd with
  | refl => exact ⟨c, h⟩
  | tail hx hneeds ih =>
      obtain ⟨cx, hcx⟩ := ih
      exact hs.resolve_of_needs (hsound _ hx) hcx hneeds

end Indexed

end Store

end MarkupTemplates
