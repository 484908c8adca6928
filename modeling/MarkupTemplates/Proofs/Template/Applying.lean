import Mathlib
import MarkupTemplates.Proofs.Markup.Attributes
import MarkupTemplates.Proofs.Template.Rewriting

/-!
# Applying a directive

What applying a directive comes to, whichever way it ends.

* `Directive.rewriteFrom_of_applyTo`: a directive that succeeds has rewritten the tree at once, at
  the indices that its path addressed before any edit, and the nodes that are neither addressed nor
  above an addressed one stay as they are and in order.
* `Directive.applyTo_cases`: a directive fails exactly if its payload does not fit its action
  (`Directive.Unfit`), if it addresses nothing, or if it addresses several elements and may not, in
  this order, and then the tree is as before; for no edit can fail once the first one is made.
-/

namespace MarkupTemplates.Markup

/-- The attributes of an element; a text has none. -/
def Node.attributes : Node → Attributes
  | .element _ attributes _ => attributes
  | .text _ => ∅

variable {edit : Node → List Node} {chosen : Index → Bool} {parent : Index}

/-! ### What a rewriting keeps -/

/-- A node stays as it is if nothing is chosen at its index or below. -/
theorem Node.rewriteAt_of_forall {n : Node} {index : Index}
    (h : ∀ rest, chosen (index ++ rest) = false) : n.rewriteAt edit chosen index = [n] := by
  have hnone : n.rewriteAt edit chosen index = n.rewriteAt edit (fun _ => false) index :=
    Node.rewriteAt_congr h
  rw [hnone, Node.rewriteAt_none]

/-- The nodes that have nothing chosen at their indices or below stay as they are and in order. -/
theorem sublist_rewriteFrom (keep : Index → Bool)
    (h : ∀ q, keep q = true → ∀ rest, chosen (q ++ rest) = false) :
    ∀ {nodes : List Node} {i : Nat},
      (((nodes.zipIdx i).filter fun entry => keep (parent ++ [entry.2])).map (·.1)).Sublist
        (rewriteFrom edit chosen parent i nodes)
  | [], i => .slnil
  | n :: ns, i => by
      rw [List.zipIdx_cons, List.filter_cons, rewriteFrom]
      split
      · rename_i hkeep
        rw [Node.rewriteAt_of_forall (h _ hkeep)]
        exact (sublist_rewriteFrom keep h).cons_cons n
      · exact (sublist_rewriteFrom keep h).trans (List.sublist_append_right _ _)

end MarkupTemplates.Markup

namespace MarkupTemplates

open Markup (Node Attributes Index rewriteFrom childrenAt?)

/-! ### Payloads -/

/-- An element that carries attributes to set and nothing else. -/
def IsAttributeElement (n : Node) : Prop :=
  ∃ attributes, n = .element attributeTag attributes []

namespace Directive

variable {d : Directive}

/-- The attributes of the payload, merged one after the other. -/
def payloadAttributes (d : Directive) : Attributes :=
  (d.payload.filter (!·.isBlank)).foldl (fun merged n => merged.merge n.attributes) ∅

/-- The payload of a directive does not fit its action. -/
inductive Unfit (d : Directive) : PayloadFault → Prop where
  /-- There is something to do nothing with. -/
  | unused {n : Node} : d.action = .remove → n ∈ d.payload → n.isBlank = false → d.Unfit .unused
  /-- There is nothing to insert. -/
  | missing : d.action ≠ .remove → d.action ≠ .setAttributes →
      (∀ n ∈ d.payload, n.isBlank = true) → d.Unfit .missing
  /-- There is something other than attributes to set. -/
  | notAttributes {n : Node} : d.action = .setAttributes → n ∈ d.payload → n.isBlank = false →
      ¬ IsAttributeElement n → d.Unfit .notAttributes
  /-- There are no attributes to set. -/
  | noAttributes : d.action = .setAttributes →
      (∀ n ∈ d.payload, n.isBlank = false → IsAttributeElement n ∧ n.attributes.isEmpty = true) →
      d.Unfit .noAttributes

end Directive

/-- Attribute elements are merged one after the other. -/
theorem mergeAttributeElements_of_forall {nodes : List Node} {acc : Attributes}
    (h : ∀ n ∈ nodes, IsAttributeElement n) :
    mergeAttributeElements acc nodes =
      .ok (nodes.foldl (fun merged n => merged.merge n.attributes) acc) := by
  induction nodes generalizing acc with
  | nil => rfl
  | cons n ns ih =>
      obtain ⟨⟨attributes, rfl⟩, hns⟩ := List.forall_mem_cons.mp h
      rw [mergeAttributeElements, if_pos rfl, ih hns]
      rfl

theorem mergeAttributeElements_cons_of_not {n : Node} (h : ¬ IsAttributeElement n)
    (acc : Attributes) (nodes : List Node) :
    mergeAttributeElements acc (n :: nodes) = .error .notAttributes := by
  cases n with
  | text content => rfl
  | element tag attributes children =>
      cases children with
      | cons child rest => rfl
      | nil =>
          rw [mergeAttributeElements, if_neg]
          rintro rfl
          exact h ⟨attributes, rfl⟩

/-- One node that is no attribute element is enough for a list to be refused. -/
theorem mergeAttributeElements_of_exists {nodes : List Node} {acc : Attributes}
    (h : ∃ n ∈ nodes, ¬ IsAttributeElement n) :
    mergeAttributeElements acc nodes = .error .notAttributes := by
  induction nodes generalizing acc with
  | nil => obtain ⟨n, hn, -⟩ := h; cases hn
  | cons n ns ih =>
      by_cases hfirst : IsAttributeElement n
      · obtain ⟨other, hmem, hnot⟩ := h
        obtain ⟨attributes, rfl⟩ := hfirst
        rw [mergeAttributeElements, if_pos rfl]
        rcases List.mem_cons.mp hmem with rfl | hmem
        · exact absurd ⟨attributes, rfl⟩ hnot
        · exact ih ⟨other, hmem, hnot⟩
      · exact mergeAttributeElements_cons_of_not hfirst acc ns

/-- Merging leaves nothing only if no node has attributes. -/
theorem isEmpty_foldl_merge {nodes : List Node} {acc : Attributes} :
    (nodes.foldl (fun merged n => merged.merge n.attributes) acc).isEmpty =
      (acc.isEmpty && nodes.all (·.attributes.isEmpty)) := by
  induction nodes generalizing acc with
  | nil => exact (Bool.and_true _).symm
  | cons n ns ih =>
      rw [List.foldl_cons, ih, Attributes.isEmpty_merge, List.all_cons, Bool.and_assoc]

namespace Directive

variable {d : Directive}

/-- The payload of a directive fits its action. -/
def Fits (d : Directive) : Prop := ∀ fault, ¬ d.Unfit fault

theorem mem_content {n : Node} :
    n ∈ d.payload.filter (!·.isBlank) ↔ n ∈ d.payload ∧ n.isBlank = false := by
  rw [List.mem_filter, Bool.not_eq_true']

theorem content_eq_nil_iff :
    d.payload.filter (!·.isBlank) = [] ↔ ∀ n ∈ d.payload, n.isBlank = true := by
  rw [List.filter_eq_nil_iff]
  simp only [Bool.not_eq_true', Bool.not_eq_false]

/-- What the check of a payload says: what does not fit, or the attributes to set. -/
structure Checks (d : Directive) (checked : Except PayloadFault Attributes) : Prop where
  /-- A fault is one of the payload. -/
  unfit : ∀ fault, checked = .error fault → d.Unfit fault
  /-- Without a fault the payload fits. -/
  fits : ∀ attributes, checked = .ok attributes → d.Fits
  /-- The attributes to set are those of the payload. -/
  attributes_eq : ∀ attributes, checked = .ok attributes → d.action = .setAttributes →
    attributes = d.payloadAttributes

theorem checks_error {fault : PayloadFault} (h : d.Unfit fault) : d.Checks (.error fault) where
  unfit _ he := by cases he; exact h
  fits _ he := nomatch he
  attributes_eq _ he := nomatch he

theorem checks_ok {attributes : Attributes} (h : d.Fits)
    (heq : d.action = .setAttributes → attributes = d.payloadAttributes) :
    d.Checks (.ok attributes) where
  unfit _ he := nomatch he
  fits _ _ := h
  attributes_eq _ he := by cases he; exact heq

/-- A removal is checked for having nothing to do anything with. -/
theorem checks_remove (haction : d.action = .remove) : d.Checks d.checkPayload := by
  simp only [checkPayload, haction, List.isEmpty_iff, content_eq_nil_iff]
  split
  · rename_i hblank
    refine checks_ok (fun fault hunfit => ?_) (by simp [haction])
    cases hunfit with
    | unused _ hn hfilled => rw [hblank _ hn] at hfilled; cases hfilled
    | missing hne => exact hne haction
    | notAttributes hset | noAttributes hset => rw [haction] at hset; cases hset
  · rename_i hfilled
    simp only [not_forall, Bool.not_eq_true] at hfilled
    obtain ⟨n, hn, hfilled⟩ := hfilled
    exact checks_error (.unused haction hn hfilled)

/-- An insertion or replacement is checked for having something to put in. -/
theorem checks_insert (hremove : d.action ≠ .remove) (hset : d.action ≠ .setAttributes) :
    d.Checks d.checkPayload := by
  have hcheck : d.checkPayload =
      if (d.payload.filter (!·.isBlank)).isEmpty then .error .missing else .ok ∅ := by
    rw [checkPayload]
    cases haction : d.action with
    | remove => exact absurd haction hremove
    | setAttributes => exact absurd haction hset
    | _ => rfl
  simp only [hcheck, List.isEmpty_iff, content_eq_nil_iff]
  split
  · rename_i hblank
    exact checks_error (.missing hremove hset hblank)
  · rename_i hfilled
    refine checks_ok (fun fault hunfit => ?_) (absurd · hset)
    cases hunfit with
    | unused h => exact hremove h
    | missing _ _ hblank => exact hfilled hblank
    | notAttributes h | noAttributes h => exact hset h

/-- An attribute setting is checked for attribute elements, and for an attribute in one of them. -/
theorem checks_setAttributes (haction : d.action = .setAttributes) :
    d.Checks d.checkPayload := by
  by_cases hall : ∀ n ∈ d.payload, n.isBlank = false → IsAttributeElement n
  · have hcheck : d.checkPayload = if d.payloadAttributes.isEmpty then .error .noAttributes
        else .ok d.payloadAttributes := by
      simp only [checkPayload, haction]
      rw [mergeAttributeElements_of_forall fun n hn =>
        hall n (mem_content.mp hn).1 (mem_content.mp hn).2]
      rfl
    have hempty : d.payloadAttributes.isEmpty = true ↔
        ∀ n ∈ d.payload, n.isBlank = false → n.attributes.isEmpty = true := by
      rw [payloadAttributes, isEmpty_foldl_merge, Bool.and_eq_true, List.all_eq_true]
      simp only [mem_content, and_imp]
      exact and_iff_right rfl
    rw [hcheck]
    split
    · rename_i hnone
      refine checks_error (.noAttributes haction fun n hn hfilled => ⟨hall n hn hfilled, ?_⟩)
      exact hempty.mp hnone n hn hfilled
    · rename_i hsome
      refine checks_ok (fun fault hunfit => ?_) fun _ => rfl
      cases hunfit with
      | unused h => rw [haction] at h; cases h
      | missing _ h => exact h haction
      | notAttributes _ hn hfilled hnot => exact hnot (hall _ hn hfilled)
      | noAttributes _ h => exact hsome (hempty.mpr fun n hn hfilled => (h n hn hfilled).2)
  · simp only [not_forall] at hall
    obtain ⟨n, hn, hfilled, hnot⟩ := hall
    have hcheck : d.checkPayload = .error .notAttributes := by
      simp only [checkPayload, haction]
      rw [mergeAttributeElements_of_exists ⟨n, mem_content.mpr ⟨hn, hfilled⟩, hnot⟩]
      rfl
    rw [hcheck]
    exact checks_error (.notAttributes haction hn hfilled hnot)

/-- **The check of a payload finds exactly what does not fit.** -/
theorem checks_checkPayload (d : Directive) : d.Checks d.checkPayload := by
  by_cases hremove : d.action = .remove
  · exact checks_remove hremove
  · by_cases hset : d.action = .setAttributes
    · exact checks_setAttributes hset
    · exact checks_insert hremove hset

/-! ### Success -/

/-- Only the setting of attributes looks at the attributes to set. -/
theorem editNode_congr {a b : Attributes} (h : d.action = .setAttributes → a = b) :
    d.editNode a = d.editNode b := by
  funext n
  unfold editNode
  cases haction : d.action with
  | setAttributes => rw [h haction]
  | _ => rfl

/-- **A directive that succeeds has rewritten the tree at once.**  What it rewrites are the elements
that its path addresses in the tree as it was before: each becomes what the action makes of it,
once what is below it has been rewritten.  The nodes of a list that are neither addressed nor above
an addressed node stay in what becomes of the list, unchanged and in order. -/
theorem rewriteFrom_of_applyTo {id : String} {nodes after : List Node}
    (h : d.applyTo id nodes = (.ok (), after)) :
    let chosen := fun q : Index => decide (q ∈ d.path.select nodes)
    after = rewriteFrom (d.editNode d.payloadAttributes) chosen [] 0 nodes ∧
      ∀ parent children, childrenAt? nodes parent = some children →
        ((children.zipIdx.filter fun entry =>
          !(d.path.select nodes).any ((parent ++ [entry.2]).isPrefixOf ·)).map (·.1)).Sublist
          (rewriteFrom (d.editNode d.payloadAttributes) chosen parent 0 children) := by
  intro chosen
  constructor
  · rw [applyTo_eq] at h
    cases hcheck : d.checkPayload with
    | error fault => rw [hcheck] at h; cases h
    | ok attributes =>
        rw [hcheck] at h
        dsimp only at h
        have heq := d.checks_checkPayload.attributes_eq attributes hcheck
        split at h
        · cases h
        · split at h
          · cases h
          · cases h
            rw [editNode_congr heq]
  · intro parent children _
    refine Markup.sublist_rewriteFrom (fun q => !(d.path.select nodes).any (q.isPrefixOf ·))
      fun q hq rest => decide_eq_false fun hmem => ?_
    rw [Bool.not_eq_true', List.any_eq_false] at hq
    exact hq _ hmem (List.isPrefixOf_iff_prefix.mpr (List.prefix_append q rest))

/-- Before and inside each other, with a payload that the path would address as well. -/
theorem rewriteFrom_of_applyTo_nested :
    let d : Directive := ⟨⟨"//li", [⟨.descendant, .named "li", []⟩]⟩, .insertBefore,
      [.element "li" ∅ [.text "new"]], true, ⟨0, 0⟩⟩
    let inner : Node := .element "li" ∅ [.text "inner"]
    let nodes : List Node := [.element "ul" ∅ [.element "li" ∅ [.text "outer", inner], .text "end"]]
    let new : Node := .element "li" ∅ [.text "new"]
    let after : List Node :=
      [.element "ul" ∅ [new, .element "li" ∅ [.text "outer", new, inner], .text "end"]]
    let chosen := fun q : Index => decide (q ∈ d.path.select nodes)
    d.path.select nodes = [[0, 0], [0, 0, 1]] ∧ d.applyTo "a" nodes = (.ok (), after) ∧
      after = rewriteFrom (d.editNode d.payloadAttributes) chosen [] 0 nodes ∧
      [Node.text "end"].Sublist
        (rewriteFrom (d.editNode d.payloadAttributes) chosen [0] 0
          [.element "li" ∅ [.text "outer", inner], .text "end"]) := by
  intro d inner nodes new after chosen
  have hselect : d.path.select nodes = [[0, 0], [0, 0, 1]] := by cbv
  have hafter : d.applyTo "a" nodes = (.ok (), after) := by cbv
  obtain ⟨hrewritten, hkept⟩ := rewriteFrom_of_applyTo hafter
  refine ⟨hselect, hafter, hrewritten, ?_⟩
  have hend := hkept [0] _ rfl
  rw [hselect] at hend
  rw [show chosen = fun q => decide (q ∈ [[0, 0], [0, 0, 1]]) by simp only [chosen, hselect]]
  exact hend

/-! ### Failure -/

/-- **Every way a directive can end**, in the order in which they are tried: the payload does not
fit the action; nothing is addressed; several elements are addressed and only one may be; or the
directive succeeds.  Where it fails the tree is as it was before.  Once the edits have begun none of
them can fail: each finds its element behind all the edits made before it. -/
theorem applyTo_cases (d : Directive) (id : String) (nodes : List Node) :
    ((∃ fault, d.Unfit fault ∧
        d.applyTo id nodes = (.error (.invalidPayload id d.action fault), nodes)) ∨
      (d.Fits ∧ d.path.select nodes = [] ∧
        d.applyTo id nodes = (.error (.targetNotFound id d.path.source), nodes)) ∨
      (d.Fits ∧ 1 < (d.path.select nodes).length ∧ d.multiple = false ∧
        d.applyTo id nodes =
          (.error (.ambiguousTarget id d.path.source (d.path.select nodes).length), nodes)) ∨
      (d.Fits ∧ d.path.select nodes ≠ [] ∧
        ((d.path.select nodes).length = 1 ∨ d.multiple = true) ∧
        ∃ after, d.applyTo id nodes = (.ok (), after))) ∧
    ∀ attributes done q rest, (d.path.select nodes).reverse = done ++ q :: rest →
      ∃ before after, d.editEach attributes done nodes = (.ok (), before) ∧
        d.editAt attributes before q = .ok after := by
  constructor
  · have hchecks := d.checks_checkPayload
    rw [applyTo_eq]
    cases hcheck : d.checkPayload with
    | error fault => exact .inl ⟨fault, hchecks.unfit fault hcheck, rfl⟩
    | ok attributes =>
        have hfits := hchecks.fits attributes hcheck
        dsimp only
        by_cases hnone : d.path.select nodes = []
        · exact .inr (.inl ⟨hfits, hnone, if_pos hnone⟩)
        · have hpos := List.length_pos_iff.mpr hnone
          rw [if_neg hnone]
          split
          · rename_i hmany
            rw [Bool.and_eq_true, decide_eq_true_iff, Bool.not_eq_true'] at hmany
            exact .inr (.inr (.inl ⟨hfits, hmany.1, hmany.2, rfl⟩))
          · rename_i hfew
            rw [Bool.and_eq_true, decide_eq_true_iff, Bool.not_eq_true', not_and,
              Bool.not_eq_false] at hfew
            refine .inr (.inr (.inr ⟨hfits, hnone, ?_, _, rfl⟩))
            rcases Nat.lt_or_ge 1 (d.path.select nodes).length with hlt | hle
            · exact .inr (hfew hlt)
            · exact .inl (by omega)
  · intro attributes done q rest hsplit
    have hfound : d.path.select nodes = rest.reverse ++ q :: done.reverse := by
      rw [← List.reverse_reverse (d.path.select nodes), hsplit]
      simp
    have hsorted := d.path.pairwise_lt_select nodes
    have htrails : ∀ r ∈ d.path.select nodes, r ≠ [] ∧ ∃ T, Markup.trailFrom? [] nodes r = some T :=
      fun r hr => exists_trail_of_mem_select hr
    rw [hfound] at hsorted htrails
    obtain ⟨hq, hdone⟩ := List.pairwise_cons.mp (List.pairwise_append.mp hsorted).2.1
    obtain ⟨-, hlater⟩ := List.forall_mem_append.mp htrails
    obtain ⟨⟨hne, T, hT⟩, hlater⟩ := List.forall_mem_cons.mp hlater
    have hbefore : d.editEach attributes done.reverse.reverse nodes = _ :=
      d.editEach_reverse hdone hlater
    rw [List.reverse_reverse] at hbefore
    exact ⟨_, _, hbefore, editAt_rewriteFrom hq hne hT⟩

end Directive

end MarkupTemplates
