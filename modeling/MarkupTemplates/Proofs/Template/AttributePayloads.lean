import Mathlib
import MarkupTemplates.Proofs.Markup.Merging
import MarkupTemplates.Proofs.Template.Applying

/-!
# Payloads of several attribute elements

A directive that sets attributes first merges those of its payload into one mapping and then merges
this one into each element it addresses.  As merging is associative, each element has then what it
would have if the attribute elements were merged into it one after the other (`editNode_merged`).
-/

namespace MarkupTemplates

open Markup (Node Attributes rewriteFrom)

/-- The node with the attributes of other nodes merged into its own, one after the other. -/
def Markup.Node.mergeEach (others : List Node) : Node → Node
  | .element tag own children =>
    .element tag (others.foldl (fun merged n => merged.merge n.attributes) own) children
  | .text content => .text content

/-- Merging what was merged one after the other is merging one after the other. -/
theorem merge_foldl_merge {nodes : List Node} {own acc : Attributes} (hacc : acc.keys.Nodup) :
    own.merge (nodes.foldl (fun merged n => merged.merge n.attributes) acc) =
      nodes.foldl (fun merged n => merged.merge n.attributes) (own.merge acc) := by
  induction nodes generalizing acc with
  | nil => rfl
  | cons n ns ih =>
      rw [List.foldl_cons, List.foldl_cons, ih (Attributes.keys_nodup_merge hacc n.attributes),
        Attributes.merge_assoc hacc]

namespace Directive

variable {d : Directive}

/-- **Setting the attributes of a payload** merges those of its elements one after the other. -/
theorem editNode_merged (h : d.action = .setAttributes) :
    d.editNode d.payloadAttributes =
      fun n => [n.mergeEach (d.payload.filter (!·.isBlank))] := by
  funext n
  unfold editNode
  rw [h]
  cases n with
  | text content => rfl
  | element tag own children =>
      have hmerged : own.merge d.payloadAttributes =
          (d.payload.filter (!·.isBlank)).foldl (fun merged n => merged.merge n.attributes) own :=
        merge_foldl_merge Attributes.keys_nodup_empty
      simp only [hmerged, Node.mergeEach]

end Directive

/-- **Attribute mappings are a monoid under merging.**  The keys of a mapping that was built with the
operations on mappings are distinct.  In a merged mapping a key has the value that was merged, or
else the one it had, and the keys that are new come after the others, in order.  Merging is
associative, with the mapping without keys as its unit, and to merge a mapping twice is to merge it
once.  So a directive that sets attributes leaves each element it addresses with what it has if the
attribute elements of the payload are merged into it one after the other. -/
theorem Markup.Attributes.Built.merge_laws {a b : Attributes} (ha : a.Built) (hb : b.Built) :
    a.keys.Nodup ∧
    (∀ key, (a.merge b).get? key = (b.get? key).or (a.get? key)) ∧
    (a.merge b).keys = a.keys ++ b.keys.filter (· ∉ a.keys) ∧
    (∀ c, (a.merge b).merge c = a.merge (b.merge c)) ∧
    (∅ : Attributes).merge a = a ∧ a.merge ∅ = a ∧
    (a.merge b).merge b = a.merge b ∧
    ∀ (d : Directive) (id : String) (nodes after : List Node), d.action = .setAttributes →
      d.applyTo id nodes = (.ok (), after) →
      after = rewriteFrom (fun n => [n.mergeEach (d.payload.filter (!·.isBlank))])
        (fun q => decide (q ∈ d.path.select nodes)) [] 0 nodes := by
  have hkeys := ha.keys_nodup
  have hkeys' := hb.keys_nodup
  refine ⟨hkeys, fun key => Attributes.get?_merge hkeys', Attributes.keys_merge hkeys',
    fun c => Attributes.merge_assoc hkeys' c, Attributes.empty_merge hkeys, Attributes.merge_empty,
    Attributes.merge_merge_self hkeys hkeys', ?_⟩
  intro d id nodes after haction h
  rw [← Directive.editNode_merged haction]
  exact (Directive.rewriteFrom_of_applyTo h).1

/-- A payload of two attribute elements that share a key with each other and with the element, and
the merging of a mapping that was collected from pairs of which two share a key. -/
theorem Markup.Attributes.Built.merge_laws_two :
    let a : Attributes := ((∅ : Attributes).insert "id" "1").insert "class" "x"
    let b : Attributes := (Attributes.ofList [("label", "L"), ("id", "2"), ("label", "M")]).erase "no"
    let d : Directive := ⟨⟨"p", [⟨.child, .named "p", []⟩]⟩, .setAttributes,
      [.element "attribute" ⟨[("id", "3"), ("label", "N")]⟩ [], .text " ",
        .element "attribute" ⟨[("label", "O"), ("class", "y")]⟩ []], false, ⟨0, 0⟩⟩
    let after : List Node := [.element "p" ⟨[("id", "3"), ("class", "y"), ("label", "O")]⟩ []]
    a.Built ∧ b.Built ∧ (a.merge b).get? "id" = some "2" ∧
      (a.merge b).keys = ["id", "class", "label"] ∧ (a.merge b).merge b = a.merge b ∧
      d.applyTo "t" [.element "p" a []] = (.ok (), after) ∧
      after = rewriteFrom (fun n => [n.mergeEach (d.payload.filter (!·.isBlank))])
        (fun q => decide (q ∈ d.path.select [.element "p" a []])) [] 0 [.element "p" a []] := by
  intro a b d after
  have ha : a.Built := .insert _ _ (.insert _ _ .empty)
  have hb : b.Built := .erase _ (.ofList _)
  have hafter : d.applyTo "t" [.element "p" a []] = (.ok (), after) := by cbv
  obtain ⟨-, hget, hkeys, -, -, -, htwice, hpayload⟩ := ha.merge_laws hb
  refine ⟨ha, hb, ?_, ?_, htwice, hafter, hpayload d "t" _ after rfl hafter⟩
  · rw [hget]
    rfl
  · rw [hkeys]
    rfl

end MarkupTemplates
