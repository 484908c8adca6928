import MarkupTemplates.Compile.Memo
import MarkupTemplates.Proofs.Template.MinifiedEdit

/-!
# Stores of minified templates

Registering does not look at the nodes of templates: a store with minified templates comes about
as the store with the templates does, with the same errors, receipts and notices
(`Store.registerAll_minified`), and has the same graph of dependencies (`Store.graph_minified`).
-/

namespace MarkupTemplates

/-! ### One template -/

namespace Template

variable {t : Template}

@[simp] theorem minified_id : t.minified.id = t.id := rfl

@[simp] theorem minified_mode? : t.minified.mode? = t.mode? := by
  obtain ⟨id, body, origin⟩ := t
  cases body <;> rfl

@[simp] theorem minified_isLayer : t.minified.isLayer = t.isLayer := by
  rw [isLayer, isLayer, minified_mode?]

@[simp] theorem minified_priority : t.minified.priority = t.priority := by
  obtain ⟨id, body, origin⟩ := t
  cases body <;> rfl

@[simp] theorem minified_copied? : t.minified.copied? = t.copied? := by
  obtain ⟨id, body, origin⟩ := t
  cases body <;> rfl

@[simp] theorem minified_layered? : t.minified.layered? = t.layered? := by
  obtain ⟨id, body, origin⟩ := t
  cases body <;> rfl

@[simp] theorem minified_directives :
    t.minified.directives = t.directives.map Directive.minified := by
  obtain ⟨id, body, origin⟩ := t
  cases body <;> rfl

/-- The node lists of a minified template are its node lists, minified. -/
theorem minified_parts : t.minified.parts = t.parts.map Markup.minified := by
  obtain ⟨id, body, origin⟩ := t
  cases body with
  | root content => rfl
  | copy target directives =>
      simp only [parts, minified, Body.minified, List.map_map]
      rfl
  | layer target priority directives =>
      simp only [parts, minified, Body.minified, List.map_map]
      rfl

/-- Minifying drops no include, so a template depends on the same ids. -/
@[simp] theorem minified_dependencies : t.minified.dependencies = t.dependencies := by
  have hincludes : t.minified.includes = t.includes := by
    rw [includes, includes, minified_parts, List.flatMap_map]
    exact congrArg t.parts.flatMap (funext includesIn_minified)
  rw [dependencies, dependencies, hincludes, minified_copied?]

end Template

/-! ### The index -/

/-- The slot with its templates minified. -/
def Slot.minified (slot : Slot) : Slot :=
  { slot with
    definition? := slot.definition?.map Template.minified
    layers := slot.layers.map Template.minified }

/-- A minified layer finds the same place among minified layers. -/
theorem insertLayer_minified {t : Template} {us : List Template} :
    insertLayer t.minified (us.map Template.minified) =
      (insertLayer t us).map Template.minified := by
  induction us with
  | nil => rfl
  | cons u us ih =>
      simp only [List.map_cons, insertLayer, Template.minified_priority, ih]
      split
      · rfl
      · rfl

/-- A slot of minified templates takes in a minified template as the slot does the template. -/
theorem Slot.add_minified (t : Template) (slot : Slot) :
    slot.minified.add t.minified = (slot.add t).minified := by
  rw [Slot.add, Slot.add, Template.minified_isLayer]
  split
  · simp [minified, insertLayer_minified]
  · rfl

/-- Minified templates are indexed as the templates are. -/
theorem addToSlots_minified {t : Template} {slots : List Slot} :
    addToSlots t.minified (slots.map Slot.minified) = (addToSlots t slots).map Slot.minified := by
  induction slots with
  | nil => exact congrArg ([·]) (Slot.add_minified t ⟨t.id, none, []⟩)
  | cons slot slots ih =>
      simp only [List.map_cons, addToSlots, ih, Slot.add_minified, Template.minified_id,
        show slot.minified.id = slot.id from rfl]
      split
      · rfl
      · rfl

namespace Store

/-- The store with its templates minified. -/
def minified (s : Store) : Store :=
  { s with templates := s.templates.map Template.minified, slots := s.slots.map Slot.minified }

variable {s : Store} {id : String}

theorem slot?_minified : s.minified.slot? id = (s.slot? id).map Slot.minified :=
  List.find?_map

theorem definition?_minified :
    s.minified.definition? id = (s.definition? id).map Template.minified := by
  rw [definition?, definition?, slot?_minified]
  cases s.slot? id with
  | none => rfl
  | some slot => rfl

theorem contains_minified : s.minified.contains id = s.contains id := by
  rw [contains, contains, definition?_minified, Option.isSome_map]

/-- The layers of an id are the same ones in the same order, minified. -/
theorem layers_minified : s.minified.layers id = (s.layers id).map Template.minified := by
  rw [layers, layers, slot?_minified]
  cases s.slot? id with
  | none => rfl
  | some slot => rfl

theorem knows_minified : s.minified.knows id = s.knows id := by
  rw [knows, knows, slot?_minified, Option.isSome_map]

theorem dependencies_minified : s.minified.dependencies id = s.dependencies id := by
  have hfilter : s.minified.templates.filter (·.id == id) =
      (s.templates.filter (·.id == id)).map Template.minified := List.filter_map
  rw [dependencies, dependencies, hfilter, List.flatMap_map]
  simp only [Template.minified_dependencies]

/-- **Minifying leaves the graph of dependencies alone.** -/
theorem graph_minified : s.minified.graph = s.graph := by
  rw [graph, graph, show s.minified.slots = s.slots.map Slot.minified from rfl, List.map_map]
  refine congrArg Graph.mk (List.map_congr_left fun slot _ => ?_)
  simp [Slot.minified, dependencies_minified]

/-! ### Registering -/

/-- A minified template is added to a minified store as the template is to the store. -/
theorem add_minified {t : Template} : s.minified.add t.minified = (s.add t).minified := by
  simp [add, minified, addToSlots_minified]

/-- A minified template is refused for the same reason. -/
theorem refusal?_minified {taken : List String} {t : Template} :
    s.minified.refusal? taken t.minified = s.refusal? taken t := by
  rw [refusal?, refusal?, Template.minified_id, Template.minified_layered?, contains_minified]

/-- A batch of minified templates is refused for the same reason. -/
theorem checkBatch_minified {ts : List Template} : ∀ {taken : List String},
    s.minified.checkBatch taken (ts.map Template.minified) = s.checkBatch taken ts := by
  induction ts with
  | nil => exact rfl
  | cons t ts ih =>
      intro taken
      simp only [List.map_cons, checkBatch, refusal?_minified, Template.minified_isLayer,
        Template.minified_id, ih]

/-- A minified template is noticed in the same words. -/
theorem noticesFor_minified {t : Template} :
    s.minified.noticesFor t.minified = s.noticesFor t := by
  have hshares : s.minified.sharesPriority t.minified = s.sharesPriority t := by
    rw [sharesPriority, sharesPriority, Template.minified_isLayer, Template.minified_id,
      layers_minified, List.any_map]
    simp [Function.comp_def]
  rw [noticesFor, noticesFor, hshares, Template.minified_id, Template.minified_priority,
    Template.minified_mode?]

theorem handle_minified {t : Template} : s.minified.handle t.minified = s.handle t := by
  simp [handle, size, minified]

/-- A batch of minified templates is added as the batch is, with the same handles and notices. -/
theorem addAll_minified {ts : List Template} : ∀ {s : Store},
    s.minified.addAll (ts.map Template.minified) = ((s.addAll ts).1.minified, (s.addAll ts).2) := by
  induction ts with
  | nil => exact rfl
  | cons t ts ih =>
      intro s
      rw [List.map_cons, addAll, addAll, add_minified, ih, noticesFor_minified, handle_minified]

/-- **Minified templates are registered like the templates.** -/
theorem registerAll_minified {ts : List Template} :
    s.minified.registerAll (ts.map Template.minified) =
      (s.registerAll ts).map fun r => (r.1.minified, r.2) := by
  rw [registerAll, registerAll, checkBatch_minified]
  cases s.checkBatch [] ts with
  | error e => rfl
  | ok _ =>
      rw [addAll_minified, List.isEmpty_map]
      change (if ts.isEmpty then _ else _) = Except.map _ (if ts.isEmpty then _ else _)
      split
      · rfl
      · rfl

end Store

end MarkupTemplates
