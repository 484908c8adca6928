import MarkupTemplates.Proofs.Compile.Agreement
import MarkupTemplates.Proofs.Template.Expansion
import MarkupTemplates.Proofs.Tracks

/-!
# Compiled trees

A tree gets its nodes from the content of a root, from the payloads of directives and from other
compiled trees, and an include is replaced wherever it comes from before a directive is applied.
What all node lists of the templates of a store obey, the compiled trees therefore obey too
(`Store.Indexed.everywhere_resolve`), as soon as replacing includes leads from what is asked of the
templates to what is asked of the trees (`TreeRule.ReachedFrom`).  It does so for any rule
(`TreeRule.reachedFrom_holds`), and it leaves no include if all of them name a template
(`TreeRule.reachedFrom_written`).
-/

namespace MarkupTemplates

open Markup (Node Everywhere everywhere_nil everywhere_cons everywhere_singleton everywhere_append)

namespace TreeRule

/-- The rule for what a template is written with: includes name a template. -/
def Written (R : TreeRule) (n : Node) : Prop := R.Holds n ∧ NamedInclude n

/-- The rule that allows no include. -/
def withoutIncludes (R : TreeRule) : TreeRule :=
  { R with tag := fun tag => R.tag tag ∧ tag ≠ includeTag }

/-- The rule that allows no include says of a node what the rule does, and that it is none. -/
theorem holds_withoutIncludes {R : TreeRule} {n : Node} :
    R.withoutIncludes.Holds n ↔ R.Holds n ∧ NoInclude n := by
  cases n with
  | text content => exact ⟨fun h => ⟨h, noInclude_text content⟩, fun h => h.1⟩
  | element tag attributes children =>
      rw [noInclude_element]
      exact ⟨fun ⟨⟨ht, hi⟩, ha⟩ => ⟨⟨ht, ha⟩, hi⟩, fun ⟨⟨ht, ha⟩, hi⟩ => ⟨⟨ht, hi⟩, ha⟩⟩

end TreeRule

/-- Replacing includes leads from nodes that obey `W` to nodes that follow the rule, if the trees
that stand for the includes follow it. -/
def TreeRule.ReachedFrom (R : TreeRule) (W : Node → Prop) : Prop :=
  ∀ {f : String → Node → ExceptT ResolutionError Id (List Node)},
    (∀ id n after, f id n = .ok after → Everywhere R.Holds after) →
    ∀ ns : List Node, Everywhere W ns → ∀ after, replaceIncludes f ns = .ok after →
      Everywhere R.Holds after

variable {R : TreeRule}

/-! ### Replacing includes -/

section

variable {f : String → Node → ExceptT ResolutionError Id (List Node)}

/-- Replacing includes with `f` leads from nodes that obey `W` to nodes that obey `Q`, one node at a
time. -/
structure Leads (f : String → Node → ExceptT ResolutionError Id (List Node)) (W Q : Node → Prop) :
    Prop where
  /-- A text stays. -/
  text : ∀ content, W (.text content) → Q (.text content)
  /-- An element that is no include keeps its tag and its attributes. -/
  element : ∀ tag attributes children replaced, tag ≠ includeTag →
    W (.element tag attributes children) → Q (.element tag attributes replaced)
  /-- An include gives way to a tree, or stays with all that is in it. -/
  included : ∀ attributes children after,
    (Node.element includeTag attributes children).Everywhere W →
      replaceIncludesNode f (.element includeTag attributes children) = .ok after →
        Everywhere Q after

namespace Leads

variable {W Q : Node → Prop}

mutual

/-- What holds node by node holds of all that a node gives way to. -/
theorem everywhere_replaceIncludesNode (hf : Leads f W Q) : ∀ (n : Node) {after : List Node},
    n.Everywhere W → replaceIncludesNode f n = .ok after → Everywhere Q after
  | .text content, after, hn, h => by
      rw [replaceIncludesNode] at h
      cases h
      exact everywhere_singleton.mpr
        (Node.everywhere_text.mpr (hf.text content (Node.everywhere_text.mp hn)))
  | .element tag attributes children, after, hn, h => by
      by_cases hinclude : tag = includeTag
      · subst hinclude
        exact hf.included attributes children after hn h
      · obtain ⟨hown, hchildren⟩ := Node.everywhere_element.mp hn
        rw [replaceIncludesNode, if_neg hinclude] at h
        obtain ⟨replaced, hreplaced, hafter⟩ := bind_eq_ok_iff.mp h
        have hall := everywhere_replaceIncludes hf children hchildren hreplaced
        cases hafter
        exact everywhere_singleton.mpr (Node.everywhere_element.mpr
          ⟨hf.element tag attributes children replaced hinclude hown, hall⟩)

/-- **What holds node by node holds of all nodes**, at every depth. -/
theorem everywhere_replaceIncludes (hf : Leads f W Q) : ∀ (ns : List Node) {after : List Node},
    Everywhere W ns → replaceIncludes f ns = .ok after → Everywhere Q after
  | [], after, _, h => by
      rw [replaceIncludes] at h
      cases h
      exact everywhere_nil
  | n :: ns, after, hns, h => by
      obtain ⟨hn, hns⟩ := everywhere_cons.mp hns
      rw [replaceIncludes] at h
      obtain ⟨here, hhere, h⟩ := bind_eq_ok_iff.mp h
      obtain ⟨rest, hrest, hafter⟩ := bind_eq_ok_iff.mp h
      cases hafter
      exact everywhere_append.mpr ⟨everywhere_replaceIncludesNode hf n hn hhere,
        everywhere_replaceIncludes hf ns hns hrest⟩

end

/-- A rule leads to itself, if the trees that stand for includes follow it. -/
theorem holds (hf : ∀ id n after, f id n = .ok after → Everywhere R.Holds after) :
    Leads f R.Holds R.Holds where
  text _ h := h
  element _ _ _ _ _ h := h
  included attributes children after hn h := by
    rw [replaceIncludesNode, if_pos rfl] at h
    split at h
    · exact hf _ _ after h
    · -- an include that names nothing stays with all that is in it
      cases h
      exact everywhere_singleton.mpr hn

/-- What is written leads to nodes without includes, for each include gives way to a tree. -/
theorem written (hf : ∀ id n after, f id n = .ok after → Everywhere R.withoutIncludes.Holds after) :
    Leads f R.Written R.withoutIncludes.Holds where
  text _ h := h.1
  element _ _ _ _ hinclude h := ⟨⟨h.1.1, hinclude⟩, h.1.2⟩
  included attributes children after hn h := by
    obtain ⟨id, hid⟩ := Option.isSome_iff_exists.mp ((Node.everywhere_element.mp hn).1.2 rfl)
    rw [replaceIncludesNode, if_pos rfl, hid] at h
    exact hf id _ after h

end Leads

/-- **Replacing includes keeps a rule.** -/
theorem TreeRule.reachedFrom_holds (R : TreeRule) : R.ReachedFrom R.Holds :=
  fun hf ns hns _ h => (Leads.holds hf).everywhere_replaceIncludes ns hns h

/-- **No include is left** if each names a template and no tree that stands for one has any. -/
theorem TreeRule.reachedFrom_written (R : TreeRule) : R.withoutIncludes.ReachedFrom R.Written :=
  fun hf ns hns _ h => (Leads.written hf).everywhere_replaceIncludes ns hns h

end

/-! ### Putting a template together -/

section

variable {W : Node → Prop} (hW : R.ReachedFrom W) {f : String → ExceptT ResolutionError Id Compiled}
  (hf : ∀ id c, f id = .ok c → Everywhere R.Holds c.tree)

include hW hf

/-- Content that is expanded follows the rule. -/
theorem everywhere_expandAll {nodes after : List Node} (hnodes : Everywhere W nodes)
    (h : expandAll (fun target => Compiled.tree <$> f target) nodes = .ok after) :
    Everywhere R.Holds after := by
  rw [expandAll_eq] at h
  refine hW (fun id _ after hafter => ?_) nodes hnodes after h
  change Compiled.tree <$> f id = .ok after at hafter
  rw [map_eq_pure_bind] at hafter
  obtain ⟨c, hc, htree⟩ := bind_eq_ok_iff.mp hafter
  cases htree
  exact hf id c hc

theorem everywhere_mapM_expand {directives expanded : List Directive}
    (hpayloads : ∀ d ∈ directives, Everywhere W d.payload)
    (h : directives.mapM (Directive.expand fun target => Compiled.tree <$> f target) =
      .ok expanded) :
    ∀ d ∈ expanded, Everywhere R.Holds d.payload := by
  rw [mapM_exceptT] at h
  refine Yields.mapM (fun d hd d' hd' => ?_) expanded h
  obtain ⟨payload, hpayload, hd'⟩ := bind_eq_ok_iff.mp hd'
  cases hd'
  exact everywhere_expandAll hW hf (hpayloads d hd) hpayload

/-- Directives lead from a tree that follows the rule to one that does. -/
theorem everywhere_patchTree {id : String} {tree after : List Node} {directives : List Directive}
    (hpayloads : ∀ d ∈ directives, Everywhere W d.payload)
    (htree : Everywhere R.Holds tree)
    (h : patchTree f id tree directives = .ok after) :
    Everywhere R.Holds after := by
  obtain ⟨expanded, hexpanded, h⟩ := bind_eq_ok_iff.mp h
  exact everywhere_applyAll (everywhere_mapM_expand hW hf hpayloads hexpanded) htree h

/-- The tree of a definition follows the rule. -/
theorem everywhere_assembleBase {id : String} {t : Template} {base : List Node × List Contributor}
    (hparts : ∀ nodes ∈ t.parts, Everywhere W nodes)
    (h : assembleBase f id t = .ok base) : Everywhere R.Holds base.1 := by
  obtain ⟨tid, body, origin⟩ := t
  cases body with
  | root content =>
      obtain ⟨tree, htree, h⟩ := bind_eq_ok_iff.mp h
      cases h
      exact everywhere_expandAll hW hf (hparts content List.mem_cons_self) htree
  | copy target directives =>
      obtain ⟨copied, hcopied, h⟩ := bind_eq_ok_iff.mp h
      obtain ⟨tree, htree, h⟩ := bind_eq_ok_iff.mp h
      cases h
      refine everywhere_patchTree hW hf (fun d hd => hparts _ ?_) (hf target copied hcopied) htree
      exact List.mem_map_of_mem hd
  | layer target priority directives => cases h; exact everywhere_nil

theorem everywhere_assembleLayer {id : String} {layer : Template}
    {done after : List Node × List Contributor}
    (hparts : ∀ nodes ∈ layer.parts, Everywhere W nodes)
    (hdone : Everywhere R.Holds done.1)
    (h : assembleLayer f id done layer = .ok after) :
    Everywhere R.Holds after.1 := by
  obtain ⟨tree, htree, h⟩ := bind_eq_ok_iff.mp h
  cases h
  refine everywhere_patchTree hW hf (fun d hd => hparts _ ?_) hdone htree
  obtain ⟨tid, body, origin⟩ := layer
  cases body with
  | root content => cases hd
  | copy target directives => exact List.mem_map_of_mem hd
  | layer target priority directives => exact List.mem_map_of_mem hd

/-- Layers lead from a tree that follows the rule to one that does. -/
theorem everywhere_foldlM_assembleLayer {id : String} {layers : List Template}
    {done after : List Node × List Contributor}
    (hparts : ∀ t ∈ layers, ∀ nodes ∈ t.parts, Everywhere W nodes)
    (hdone : Everywhere R.Holds done.1) (h : layers.foldlM (assembleLayer f id) done = .ok after) :
    Everywhere R.Holds after.1 := by
  rw [foldlM_exceptT] at h
  have hall : ∀ t ∈ layers, ∀ done, Everywhere R.Holds done.1 →
      Yields (assembleLayer (m := Id) f id done t) fun after => Everywhere R.Holds after.1 :=
    fun t ht _ hdone _ hafter => everywhere_assembleLayer hW hf (hparts t ht) hdone hafter
  exact Yields.foldlM hall hdone after h

/-- **A tree that is put together from trees that follow a rule follows it.** -/
theorem everywhere_assemble {s : Store} (hs : s.Indexed) {id : String} {c : Compiled}
    (hparts : ∀ t ∈ s.templates, ∀ nodes ∈ t.parts, Everywhere W nodes)
    (h : assemble s f id = .ok c) : Everywhere R.Holds c.tree := by
  obtain ⟨-, t, ht, base, hbase, done, hdone, rfl⟩ := assemble_eq_ok_iff.mp h
  have hmem := (hs.mem_of_definition? ht).1
  have hlayers : ∀ u ∈ s.layers id, ∀ nodes ∈ u.parts, Everywhere W nodes :=
    fun u hu => hparts u (hs.mem_layers hu).1
  refine everywhere_foldlM_assembleLayer hW hf hlayers ?_ hdone
  exact everywhere_assembleBase hW hf (hparts t hmem) hbase

end

/-! ### Compiling -/

open Classical in
/-- **A compiled tree follows a rule** at every depth, if the templates of the store are written so
that replacing includes leads to the rule. -/
theorem Store.Indexed.everywhere_resolve {s : Store} (hs : s.Indexed) {W : Node → Prop}
    (hW : R.ReachedFrom W) (hparts : ∀ t ∈ s.templates, ∀ nodes ∈ t.parts, Everywhere W nodes)
    (id : String) :
    ∀ c, s.resolve id = .ok c → Everywhere R.Holds c.tree := by
  induction id using s.graph.dependency_induction with
  | step id ih =>
      intro c hc
      rw [hs.solves_resolve id] at hc
      split at hc
      · -- only the ids that this one needs are asked for
        let f : String → Outcome := fun d =>
          if s.graph.Sound id ∧ s.graph.Needs id d then s.resolve d else .error (.notFound d)
        have hask : assemble (m := Id) s s.resolve id = assemble (m := Id) s f id :=
          Simulation.equal.assemble hs fun hsound d hd => (if_pos ⟨hsound, hd⟩).symm
        rw [hask] at hc
        refine everywhere_assemble hW (f := f) (fun d tree htree => ?_) hs hparts hc
        by_cases hd : s.graph.Sound id ∧ s.graph.Needs id d
        · exact ih hd.1 d hd.2 tree ((if_pos hd).symm.trans htree)
        · cases (if_neg hd).symm.trans htree
      · cases hc

/-! ### A root alone -/

/-- A root without includes compiles to its content if there is nothing else in the store. -/
theorem Store.Indexed.resolve_root {s : Store} (hs : s.Indexed) {t : Template}
    (ht : s.templates = [t]) {content : List Node} (hbody : t.body = .root content)
    (hfree : IncludeFree content) :
    s.resolve t.id = .ok ⟨t.id, content, [t.contributor]⟩ := by
  have hlayer : t.isLayer = false := by rw [Template.isLayer, Template.mode?, hbody]; rfl
  have hdefinition : s.definition? t.id = some t :=
    (hs.definition?_eq_some_iff t.id t).mpr ⟨by simp [ht], hlayer, rfl⟩
  have hlayers : s.layers t.id = [] := by
    refine List.eq_nil_iff_forall_not_mem.mpr fun u hu => ?_
    have hmem : u ∈ (s.layers t.id).filter (·.priority == u.priority) := by simpa using hu
    rw [hs.filter_layers, ht] at hmem
    simp [hlayer] at hmem
  -- it depends on nothing, so its check succeeds
  have hneeds : ∀ d, ¬ s.graph.Needs t.id d := by
    intro d hd
    obtain ⟨u, hu, -, hdep⟩ := hs.needs_iff.mp hd
    rw [ht, List.mem_singleton] at hu
    subst hu
    simp [Template.dependencies, Template.copied?, Template.includes, Template.parts, hbody,
      includesIn_eq_nil hfree] at hdep
  have hdefined : s.graph.isDefined t.id = true := by rw [graph_isDefined, hdefinition]; rfl
  have hsound : s.graph.Sound t.id :=
    Graph.sound_of_needs hdefined fun d hd => absurd hd (hneeds d)
  have hbase : assembleBase (m := Id) s.resolve t.id t = .ok (content, [t.contributor]) := by
    rw [assembleBase, hbody]
    simp only [expandAll_eq, replaceIncludes_eq_pure _ hfree]
    rfl
  have hknows : s.knows t.id = true := (hs.knows_iff t.id).mpr ⟨t, by simp [ht], rfl⟩
  rw [hs.resolve_of_knows hknows, assemble, Graph.checkFrom_eq_ok_iff.mpr hsound, hdefinition]
  simp only [hbase, hlayers]
  rfl

end MarkupTemplates
