import MarkupTemplates.Proofs.Compile.Agreement
import MarkupTemplates.Proofs.Template.Rewriting

/-!
# Extending in two ways

A template that compiles can be extended by a copy under a new id, or by a layer where it stands.
What the copy compiles to and what the template with the layer compiles to are said in the same
words (`Store.Indexed.resolve_copy_eq_ok_iff`, `Store.Indexed.resolve_layer_eq_ok_iff`): all that
the directives include must be sound, and the tree is the one the template compiled to before, after
the directives.  The copy takes this tree from its target, the layer finds it behind the layers that
are there already.
-/

namespace MarkupTemplates

open Markup (Node)

/-- The names of the templates that the payloads of directives include. -/
def payloadIncludes (directives : List Directive) : List String :=
  (directives.map (·.payload)).flatMap includesIn

/-! ### The id of the directives -/

/-- The id of a template occurs in the errors of its directives only. -/
theorem Directive.apply_eq_ok_iff {id id' : String} {d : Directive} {nodes after : List Node} :
    apply id nodes d = .ok after ↔ apply id' nodes d = .ok after := by
  rw [apply_eq, apply_eq]
  cases d.checkPayload with
  | error fault => exact ⟨nofun, nofun⟩
  | ok attributes =>
      dsimp only
      split
      · exact ⟨nofun, nofun⟩
      · split
        · exact ⟨nofun, nofun⟩
        · exact .rfl

/-- Directives succeed if the first does, and the others do on what it leaves. -/
theorem applyAll_cons_eq_ok_iff {id : String} {d : Directive} {ds : List Directive}
    {nodes after : List Node} :
    applyAll id nodes (d :: ds) = .ok after ↔
      ∃ edited, Directive.apply id nodes d = .ok edited ∧ applyAll id edited ds = .ok after := by
  rw [applyAll, List.foldlM_cons]
  cases Directive.apply id nodes d with
  | error e => exact ⟨nofun, nofun⟩
  | ok edited => exact ⟨fun h => ⟨edited, rfl, h⟩, fun ⟨_, he, h⟩ => by cases he; exact h⟩

/-- The id of directives is used in their errors only. -/
theorem applyAll_eq_ok_iff {id id' : String} {directives : List Directive} {after : List Node} :
    ∀ {nodes : List Node},
      applyAll id nodes directives = .ok after ↔ applyAll id' nodes directives = .ok after := by
  induction directives with
  | nil => exact .rfl
  | cons d ds ih =>
      intro nodes
      rw [applyAll_cons_eq_ok_iff, applyAll_cons_eq_ok_iff]
      exact exists_congr fun edited => and_congr Directive.apply_eq_ok_iff ih

/-- The id of a template is used in the errors of its directives only. -/
theorem patchTree_eq_ok_iff {f : String → ExceptT ResolutionError Id Compiled} {id id' : String}
    {tree after : List Node} {directives : List Directive} :
    patchTree f id tree directives = .ok after ↔ patchTree f id' tree directives = .ok after := by
  rw [patchTree, patchTree, bind_eq_ok_iff, bind_eq_ok_iff]
  exact exists_congr fun expanded => and_congr_right fun _ => applyAll_eq_ok_iff

/-! ### Soundness -/

/-- An id is sound once those of its dependencies are that are not known to be so. -/
theorem Graph.sound_iff_forall_mem {g : Graph} {id : String} {P : String → Prop}
    {ds : List String} (hdefined : g.isDefined id = true)
    (hneeds : ∀ d, g.Needs id d ↔ P d ∨ d ∈ ds) (hP : ∀ d, P d → g.Sound d) :
    g.Sound id ↔ ∀ d ∈ ds, g.Sound d := by
  constructor
  · exact fun h d hd => h.of_needs ((hneeds d).mpr (.inr hd))
  · intro h
    refine sound_of_needs hdefined fun d hd => ?_
    rcases (hneeds d).mp hd with hd | hd
    · exact hP d hd
    · exact h d hd

/-! ### Registering one template -/

/-- A layer with the greatest priority is put behind all others. -/
theorem insertLayer_of_le {t : Template} {us : List Template}
    (h : ∀ u ∈ us, u.priority ≤ t.priority) : insertLayer t us = us ++ [t] := by
  induction us with
  | nil => rfl
  | cons u us ih =>
      obtain ⟨hu, hus⟩ := List.forall_mem_cons.mp h
      rw [insertLayer, if_neg (by omega), ih hus, List.cons_append]

namespace Store

section

variable {s after : Store} {t : Template} {handles : Noted (List Handle)}
  (hreg : s.registerAll [t] = .ok (after, handles))

include hreg

theorem definition?_registerAll (id : String) :
    after.definition? id = if id = t.id ∧ t.isLayer = false then some t else s.definition? id := by
  obtain ⟨-, ⟨-, h⟩ | rfl⟩ := registerAll_eq hreg
  · cases h
  · exact definition?_add s t id

theorem layers_registerAll (id : String) :
    after.layers id =
      if id = t.id ∧ t.isLayer = true then insertLayer t (s.layers id) else s.layers id := by
  obtain ⟨-, ⟨-, h⟩ | rfl⟩ := registerAll_eq hreg
  · cases h
  · exact layers_add s t id

theorem Indexed.knows_registerAll (hafter : after.Indexed) : after.knows t.id = true :=
  (hafter.knows_iff t.id).mpr ⟨t, by simp [templates_registerAll hreg], rfl⟩

/-- A registered template adds its own dependencies to those of its id. -/
theorem Indexed.needs_registerAll (hs : s.Indexed) (hafter : after.Indexed) {id d : String} :
    after.graph.Needs id d ↔ s.graph.Needs id d ∨ t.id = id ∧ d ∈ t.dependencies := by
  rw [hafter.needs_iff, hs.needs_iff, templates_registerAll hreg]
  simp only [List.mem_append, List.mem_singleton, or_and_right, exists_or, exists_eq_left]

end

namespace Indexed

variable {s after : Store} (hs : s.Indexed)

include hs

/-- An id stays sound or not, if nothing that it reaches has changed. -/
theorem sound_congr (hafter : after.Indexed) {id : String}
    (h : ∀ x, s.graph.Reaches id x → s.SameAt after x) :
    after.graph.Sound id ↔ s.graph.Sound id := by
  rw [← Graph.checkFrom_eq_ok_iff, Graph.checkFrom_congr (hs.agrees hafter h),
    Graph.checkFrom_eq_ok_iff]

/-! ### A copy under a new id -/

section

variable {base new : String} {directives : List Directive} {origin : Origin} {c : Compiled}
  {handles : Noted (List Handle)}

/-- An id that no template has or names is not reached. -/
theorem ne_of_reaches (hnew : ∀ t ∈ s.templates, t.id ≠ new ∧ new ∉ t.dependencies)
    {d x : String} (hd : d ≠ new) (hx : s.graph.Reaches d x) : new ≠ x := by
  rintro rfl
  rcases Relation.ReflTransGen.cases_tail hx with rfl | ⟨y, -, hy⟩
  · exact hd rfl
  · obtain ⟨t, ht, -, hdep⟩ := hs.needs_iff.mp hy
    exact (hnew t ht).2 hdep

/-- **What a copy under a new id compiles to.** -/
theorem resolve_copy_eq_ok_iff (hafter : after.Indexed)
    (hreg : s.registerAll [⟨new, .copy base directives, origin⟩] = .ok (after, handles))
    (hbase : s.resolve base = .ok c)
    (hnew : ∀ t ∈ s.templates, t.id ≠ new ∧ new ∉ t.dependencies)
    (hown : new ∉ payloadIncludes directives) {x : Compiled} :
    after.resolve new = .ok x ↔ (∀ d ∈ payloadIncludes directives, s.graph.Sound d) ∧
      ∃ tree, patchTree (m := Id) s.resolve new c.tree directives = .ok tree ∧
        x = ⟨new, tree, c.contributors ++ [⟨new, some .copy, origin⟩]⟩ := by
  -- nothing that the target or an include reaches has changed
  have hsame : ∀ d, d ≠ new → ∀ x, s.graph.Reaches d x → s.SameAt after x := by
    intro d hd x hx
    refine sameAt_registerAll hreg fun t ht => ?_
    rw [List.mem_singleton.mp ht]
    exact hs.ne_of_reaches hnew hd hx
  have hbasenew : base ≠ new := by
    obtain ⟨t, ht, hid⟩ := (hs.knows_iff base).mp (hs.knows_of_resolve hbase)
    exact hid ▸ (hnew t ht).1
  have hknows : after.knows new = true := Indexed.knows_registerAll hreg hafter
  have hneeds : ∀ d, after.graph.Needs new d ↔ d = base ∨ d ∈ payloadIncludes directives := by
    intro d
    rw [Indexed.needs_registerAll hreg hs hafter, hs.needs_iff]
    constructor
    · rintro (⟨t, ht, hid, -⟩ | ⟨-, hd⟩)
      · exact absurd hid (hnew t ht).1
      · exact List.mem_cons.mp hd
    · exact fun hd => .inr ⟨rfl, List.mem_cons.mpr hd⟩
  have hincluded : ∀ d ∈ payloadIncludes directives, d ≠ new := fun d hd e => hown (e ▸ hd)
  have hdefinition : after.definition? new = some ⟨new, .copy base directives, origin⟩ := by
    rw [definition?_registerAll hreg]
    exact if_pos ⟨rfl, rfl⟩
  have hlayers : after.layers new = [] := by
    rw [layers_registerAll hreg, if_neg (by simp [Template.isLayer, Template.mode?])]
    exact List.eq_nil_iff_forall_not_mem.mpr fun u hu =>
      (hnew u (hs.mem_layers hu).1).1 (hs.mem_layers hu).2
  have hcopied : after.resolve base = .ok c :=
    (hs.resolve_congr hafter base (hsame base hbasenew)).trans hbase
  have hcongr : ∀ d, d ≠ new → (after.graph.Sound d ↔ s.graph.Sound d) :=
    fun d hd => hs.sound_congr hafter (hsame d hd)
  have hsound : after.graph.Sound new ↔ ∀ d ∈ payloadIncludes directives, s.graph.Sound d := by
    have hdefined : after.graph.isDefined new = true := by rw [graph_isDefined, hdefinition]; rfl
    rw [Graph.sound_iff_forall_mem hdefined hneeds fun d hd =>
      hd ▸ (hcongr base hbasenew).mpr (hs.sound_of_resolve hbase)]
    exact forall₂_congr fun d hd => hcongr d (hincluded d hd)
  have hpatch : patchTree (m := Id) after.resolve new c.tree directives =
      patchTree (m := Id) s.resolve new c.tree directives :=
    Simulation.equal.patchTree fun d hd => hs.resolve_congr hafter d (hsame d (hincluded d hd))
  rw [hafter.resolve_of_knows hknows, assemble_eq_ok_iff, hsound, hdefinition, hlayers]
  refine and_congr_right fun _ => ?_
  constructor
  · rintro ⟨t, ht, done, hdone, _, hlast, rfl⟩
    cases ht
    cases hlast
    obtain ⟨d, hd, tree, htree, rfl⟩ := assembleBase_copy_eq_ok_iff.mp hdone
    cases hcopied.symm.trans hd
    exact ⟨tree, hpatch ▸ htree, rfl⟩
  · rintro ⟨tree, htree, rfl⟩
    refine ⟨_, rfl, (tree, c.contributors ++ [⟨new, some .copy, origin⟩]), ?_, _, rfl, rfl⟩
    exact assembleBase_copy_eq_ok_iff.mpr ⟨c, hcopied, tree, hpatch ▸ htree, rfl⟩

/-! ### A layer in place -/

/-- **What a template with one more layer behind the others compiles to.** -/
theorem resolve_layer_eq_ok_iff (hafter : after.Indexed) {priority : Int}
    (hreg : s.registerAll [⟨base, .layer base priority directives, origin⟩] = .ok (after, handles))
    (hbase : s.resolve base = .ok c)
    (hfree : ∀ d ∈ payloadIncludes directives, ¬ s.graph.Reaches d base)
    (hpriority : ∀ t ∈ s.layers base, t.priority ≤ priority) {x : Compiled} :
    after.resolve base = .ok x ↔ (∀ d ∈ payloadIncludes directives, s.graph.Sound d) ∧
      ∃ tree, patchTree (m := Id) s.resolve base c.tree directives = .ok tree ∧
        x = ⟨base, tree, c.contributors ++ [⟨base, some .inPlace, origin⟩]⟩ := by
  have hbasesound := hs.sound_of_resolve hbase
  -- nothing has changed for an id that does not reach the target
  have hsame : ∀ d, ¬ s.graph.Reaches d base → ∀ x, s.graph.Reaches d x → s.SameAt after x := by
    intro d hd x hx
    refine sameAt_registerAll hreg fun t ht => ?_
    rw [List.mem_singleton.mp ht]
    rintro rfl
    exact hd hx
  -- what the target needed before does not reach it, or it would need itself
  have hold : ∀ d, s.graph.Needs base d → ¬ s.graph.Reaches d base := fun d hd hr =>
    (hbasesound base .refl).2 (.head' hd hr)
  have hresolve : ∀ d, ¬ s.graph.Reaches d base → after.resolve d = s.resolve d :=
    fun d hd => hs.resolve_congr hafter d (hsame d hd)
  have hneeds : ∀ d, after.graph.Needs base d ↔
      s.graph.Needs base d ∨ d ∈ payloadIncludes directives := by
    intro d
    rw [Indexed.needs_registerAll hreg hs hafter]
    exact or_congr_right ⟨fun h => h.2, fun h => ⟨rfl, h⟩⟩
  have hdefinition : after.definition? base = s.definition? base := by
    rw [definition?_registerAll hreg, if_neg (by simp [Template.isLayer, Template.mode?])]
  have hlayers : after.layers base =
      s.layers base ++ [⟨base, .layer base priority directives, origin⟩] := by
    rw [layers_registerAll hreg, if_pos ⟨rfl, rfl⟩, insertLayer_of_le hpriority]
  have hcongr : ∀ d, ¬ s.graph.Reaches d base → (after.graph.Sound d ↔ s.graph.Sound d) :=
    fun d hd => hs.sound_congr hafter (hsame d hd)
  have hsound : after.graph.Sound base ↔ ∀ d ∈ payloadIncludes directives, s.graph.Sound d := by
    have hdefined : after.graph.isDefined base = true := by
      rw [graph_isDefined, hdefinition, ← graph_isDefined]
      exact hbasesound.isDefined
    rw [Graph.sound_iff_forall_mem hdefined hneeds fun d hd =>
      (hcongr d (hold d hd)).mpr (hbasesound.of_needs hd)]
    exact forall₂_congr fun d hd => hcongr d (hfree d hd)
  have hpatch : patchTree (m := Id) after.resolve base c.tree directives =
      patchTree (m := Id) s.resolve base c.tree directives :=
    Simulation.equal.patchTree fun d hd => hresolve d (hfree d hd)
  -- the definition and the old layers come to what they came to before
  rw [hs.resolve_of_knows (hs.knows_of_resolve hbase)] at hbase
  obtain ⟨-, t, ht, first, hfirst, done, hdone, rfl⟩ := assemble_eq_ok_iff.mp hbase
  have hfirst' : assembleBase (m := Id) after.resolve base t = .ok first := by
    refine Eq.trans (Simulation.equal.assembleBase fun d hd => ?_) hfirst
    exact hresolve d (hold d (hs.needs_of_definition? ht hd))
  have hdone' : (s.layers base).foldlM (assembleLayer (m := Id) after.resolve base) first =
      .ok done := by
    refine Eq.trans (Simulation.equal.foldlM (fun layer hl b => ?_) first) hdone
    exact Simulation.equal.assembleLayer fun d hd =>
      hresolve d (hold d (hs.needs_of_mem_layers hl hd))
  have hknows : after.knows base = true := Indexed.knows_registerAll hreg hafter
  rw [hafter.resolve_of_knows hknows, assemble_eq_ok_iff, hsound, hdefinition, hlayers]
  refine and_congr_right fun _ => ?_
  constructor
  · rintro ⟨t', ht', first', hbase', all, hall, rfl⟩
    cases ht.symm.trans ht'
    cases hfirst'.symm.trans hbase'
    obtain ⟨before, hbefore, hall⟩ := foldlM_concat_eq_ok_iff.mp hall
    cases hdone'.symm.trans hbefore
    obtain ⟨tree, htree, rfl⟩ := assembleLayer_eq_ok_iff.mp hall
    exact ⟨tree, hpatch ▸ htree, rfl⟩
  · rintro ⟨tree, htree, rfl⟩
    refine ⟨t, ht, first, hfirst', (tree, done.2 ++ [⟨base, some .inPlace, origin⟩]), ?_, rfl⟩
    refine foldlM_concat_eq_ok_iff.mpr ⟨done, hdone', ?_⟩
    exact assembleLayer_eq_ok_iff.mpr ⟨tree, hpatch ▸ htree, rfl⟩

/-! ### The two ways side by side -/

/-- **A copy and a layer lead to the same tree**, or both to none. -/
theorem resolve_copy_layer {copied layered : Store} {handles handles' : Noted (List Handle)}
    {priority : Int} {origin' : Origin} (hcopied : copied.Indexed) (hlayered : layered.Indexed)
    (hcopy : s.registerAll [⟨new, .copy base directives, origin⟩] = .ok (copied, handles))
    (hlayer : s.registerAll [⟨base, .layer base priority directives, origin'⟩] =
      .ok (layered, handles'))
    (hbase : s.resolve base = .ok c)
    (hnew : ∀ t ∈ s.templates, t.id ≠ new ∧ new ∉ t.dependencies)
    (hown : new ∉ payloadIncludes directives)
    (hfree : ∀ d ∈ payloadIncludes directives, ¬ s.graph.Reaches d base)
    (hpriority : ∀ t ∈ s.layers base, t.priority ≤ priority) (tree : List Node) :
    (∃ x, copied.resolve new = .ok x ∧ x.tree = tree) ↔
      ∃ x, layered.resolve base = .ok x ∧ x.tree = tree := by
  simp only [hs.resolve_copy_eq_ok_iff hcopied hcopy hbase hnew hown,
    hs.resolve_layer_eq_ok_iff hlayered hlayer hbase hfree hpriority]
  constructor
  · rintro ⟨_, ⟨hall, tree, htree, rfl⟩, rfl⟩
    exact ⟨_, ⟨hall, tree, patchTree_eq_ok_iff.mp htree, rfl⟩, rfl⟩
  · rintro ⟨_, ⟨hall, tree, htree, rfl⟩, rfl⟩
    exact ⟨_, ⟨hall, tree, patchTree_eq_ok_iff.mp htree, rfl⟩, rfl⟩

end

end Indexed

end Store

end MarkupTemplates
