import MarkupTemplates.Proofs.Markup.Everywhere
import MarkupTemplates.Proofs.Template.Rewriting
import MarkupTemplates.Proofs.Yields

/-!
# What edits keep

A `TreeRule` says what is asked of the tags, the attributes and the texts of a tree.  Directives
whose payloads follow a rule keep a tree that follows it within the rule
(`everywhere_applyAll`): whatever the action, each element of the edited tree has the tag of an
element of the tree or of a payload, and attributes merged from those of such elements.
-/

namespace MarkupTemplates

open Markup (Node Attributes Index Everywhere everywhere_nil everywhere_cons everywhere_singleton
  everywhere_append everywhere_iff_forall_mem rewriteFrom)

/-! ### Rules -/

/-- What is asked of the tags, the attributes and the texts of a tree. -/
structure TreeRule where
  /-- What is asked of a tag. -/
  tag : String → Prop
  /-- What is asked of the attributes of an element. -/
  attributes : Attributes → Prop
  /-- What is asked of a text. -/
  text : String → Prop
  /-- An element may have no attributes. -/
  empty : attributes ∅
  /-- Attributes may be merged. -/
  merge : ∀ {a b : Attributes}, attributes a → attributes b → attributes (a.merge b)

namespace TreeRule

/-- The node follows the rule, whatever is below it. -/
def Holds (R : TreeRule) : Node → Prop
  | .text content => R.text content
  | .element tag attributes _ => R.tag tag ∧ R.attributes attributes

variable (R : TreeRule) {edit : Node → List Node} {chosen : Index → Bool}

mutual

theorem everywhere_rewriteAt
    (hedit : ∀ n : Node, n.Everywhere R.Holds → Everywhere R.Holds (edit n)) :
    ∀ {n : Node} {index : Index}, n.Everywhere R.Holds →
      Everywhere R.Holds (n.rewriteAt edit chosen index)
  | .text content, index, h => by
      rw [Node.rewriteAt]
      exact everywhere_singleton.mpr h
  | .element tag attributes children, index, h => by
      obtain ⟨hown, hchildren⟩ := Node.everywhere_element.mp h
      have hnode : (Node.element tag attributes
          (rewriteFrom edit chosen index 0 children)).Everywhere R.Holds :=
        Node.everywhere_element.mpr ⟨hown, everywhere_rewriteFrom hedit hchildren⟩
      rw [Node.rewriteAt]
      split
      · exact hedit _ hnode
      · exact everywhere_singleton.mpr hnode

/-- Edits that keep each node within a rule keep a tree within it. -/
theorem everywhere_rewriteFrom
    (hedit : ∀ n : Node, n.Everywhere R.Holds → Everywhere R.Holds (edit n)) :
    ∀ {ns : List Node} {parent : Index} {i : Nat}, Everywhere R.Holds ns →
      Everywhere R.Holds (rewriteFrom edit chosen parent i ns)
  | [], parent, i, _ => by
      rw [rewriteFrom]
      exact everywhere_nil
  | n :: ns, parent, i, h => by
      obtain ⟨hn, hns⟩ := everywhere_cons.mp h
      rw [rewriteFrom]
      exact everywhere_append.mpr ⟨everywhere_rewriteAt hedit hn, everywhere_rewriteFrom hedit hns⟩

end

end TreeRule

variable {R : TreeRule} {d : Directive} {attributes : Attributes} {nodes after : List Node}

/-! ### One directive -/

/-- The attributes of attribute elements may be merged one after the other. -/
theorem attributes_of_mergeAttributeElements {acc : Attributes}
    (h : mergeAttributeElements acc nodes = .ok attributes) (hacc : R.attributes acc)
    (hnodes : Everywhere R.Holds nodes) : R.attributes attributes := by
  fun_induction mergeAttributeElements acc nodes with
  | case1 acc => cases h; exact hacc
  | case2 acc own rest ih =>
      simp only [everywhere_cons, Node.everywhere_element] at hnodes
      exact ih h (R.merge hacc hnodes.1.1.2) hnodes.2
  | case3 => cases h
  | case4 => cases h

namespace Directive

/-- **A payload that follows a rule sets attributes that follow it.** -/
theorem attributes_of_checkPayload (h : d.checkPayload = .ok attributes)
    (hpayload : Everywhere R.Holds d.payload) : R.attributes attributes := by
  have hcontent : Everywhere R.Holds (d.payload.filter (!·.isBlank)) :=
    everywhere_iff_forall_mem.mpr fun n hn =>
      everywhere_iff_forall_mem.mp hpayload n (List.mem_filter.mp hn).1
  simp only [checkPayload] at h
  split at h
  · split at h
    · cases h; exact R.empty
    · cases h
  · cases hm : mergeAttributeElements ∅ (d.payload.filter (!·.isBlank)) with
    | error e => rw [hm] at h; cases h
    | ok merged =>
        rw [hm] at h
        have hmerged := attributes_of_mergeAttributeElements hm R.empty hcontent
        change (if merged.isEmpty then _ else _) = _ at h
        split at h
        · cases h
        · cases h; exact hmerged
  · split at h
    · cases h
    · cases h; exact R.empty

/-- A directive edits a node into nodes that follow the rule, if its payload and its attributes do.
-/
theorem everywhere_editNode (hpayload : Everywhere R.Holds d.payload)
    (hattributes : R.attributes attributes) {node : Node} (hnode : node.Everywhere R.Holds) :
    Everywhere R.Holds (d.editNode attributes node) := by
  have hone : Everywhere R.Holds [node] := everywhere_singleton.mpr hnode
  unfold editNode
  cases d.action with
  | insertInside =>
      cases node with
      | text content => exact hone
      | element tag own children =>
          obtain ⟨hown, hchildren⟩ := Node.everywhere_element.mp hnode
          refine everywhere_singleton.mpr (Node.everywhere_element.mpr ⟨hown, ?_⟩)
          exact everywhere_append.mpr ⟨hchildren, hpayload⟩
  | insertBefore => exact everywhere_append.mpr ⟨hpayload, hone⟩
  | insertAfter => exact everywhere_cons.mpr ⟨hnode, hpayload⟩
  | replace => exact hpayload
  | remove => exact everywhere_nil
  | setAttributes =>
      cases node with
      | text content => exact hone
      | element tag own children =>
          obtain ⟨⟨htag, hown⟩, hchildren⟩ := Node.everywhere_element.mp hnode
          refine everywhere_singleton.mpr (Node.everywhere_element.mpr ⟨?_, hchildren⟩)
          exact ⟨htag, R.merge hown hattributes⟩

/-- **A directive whose payload follows a rule keeps a tree within it.** -/
theorem everywhere_apply {id : String} (hpayload : Everywhere R.Holds d.payload)
    (hnodes : Everywhere R.Holds nodes) (h : d.apply id nodes = .ok after) :
    Everywhere R.Holds after := by
  rw [apply_eq] at h
  split at h
  · cases h
  · rename_i attributes hcheck
    have hattributes := attributes_of_checkPayload hcheck hpayload
    split at h
    · cases h
    · split at h
      · cases h
      · cases h
        exact R.everywhere_rewriteFrom (fun _ hn => everywhere_editNode hpayload hattributes hn)
          hnodes

end Directive

/-- Directives whose payloads follow a rule keep a tree within it. -/
theorem everywhere_applyAll {id : String} {directives : List Directive}
    (hpayloads : ∀ d ∈ directives, Everywhere R.Holds d.payload)
    (hnodes : Everywhere R.Holds nodes) (h : applyAll id nodes directives = .ok after) :
    Everywhere R.Holds after :=
  Yields.foldlM (fun d hd _ hb _ hc => d.everywhere_apply (hpayloads d hd) hb hc) hnodes after h

end MarkupTemplates
