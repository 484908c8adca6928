import MarkupTemplates.Markup.Printer
import MarkupTemplates.Proofs.Markup.Tidy

/-!
# Content where there must be none

An edit may put content into an element that never has any.  What is written for such an element
has a closing tag, and reading passes over closing tags of this kind: it leaves the element empty
and puts the content behind it.  `spillAll` does the same to nodes; it leaves what is written for
them as it is exactly if no such element has content (`writeAll_spillAll_eq_iff`).
-/

namespace MarkupTemplates.Markup

variable {tag : String} {attributes : Attributes} {ns : List Node}

mutual

/-- The node, with the content of elements that never have any put behind them. -/
def Node.spill : Node → List Node
  | .text content => [.text content]
  | .element tag attributes children =>
    if isVoid tag then .element tag attributes [] :: spillAll children
    else [.element tag attributes (spillAll children)]

/-- The nodes, with the content of elements that never have any put behind them. -/
def spillAll : List Node → List Node
  | [] => []
  | n :: ns => n.spill ++ spillAll ns

end

theorem spillAll_cons (n : Node) (ns : List Node) : spillAll (n :: ns) = n.spill ++ spillAll ns := by
  rw [spillAll]

theorem spill_text (content : String) : (Node.text content).spill = [.text content] := by
  rw [Node.spill]

/-- An element that never has content spills its children behind it. -/
theorem spill_void (h : isVoid tag = true) :
    (Node.element tag attributes ns).spill = .element tag attributes [] :: spillAll ns := by
  rw [Node.spill, if_pos h]

/-- Another element keeps what its children spill. -/
theorem spill_element (h : isVoid tag = false) :
    (Node.element tag attributes ns).spill = [.element tag attributes (spillAll ns)] := by
  rw [Node.spill, if_neg (by simp [h])]

theorem spill_empty (tag : String) (attributes : Attributes) :
    (Node.element tag attributes []).spill = [.element tag attributes []] := by
  rw [Node.spill, spillAll, ite_self]

/-- Spilling makes no node disappear. -/
theorem spillAll_eq_nil_iff : spillAll ns = [] ↔ ns = [] := by
  cases ns with
  | nil => simp [spillAll]
  | cons n ns =>
      cases n with
      | text content => simp [spillAll_cons, spill_text]
      | element tag attributes children =>
          cases hv : isVoid tag with
          | true => simp [spillAll_cons, spill_void hv]
          | false => simp [spillAll_cons, spill_element hv]

/-! ### Hollow nodes -/

mutual

/-- A node spills nothing if no element that never has content has any. -/
theorem Node.spill_of_hollow : ∀ {n : Node}, n.Everywhere Hollow → n.spill = [n]
  | .text content, _ => spill_text content
  | .element tag attributes children, h => by
      obtain ⟨hown, hchildren⟩ := Node.everywhere_element.mp h
      cases hv : isVoid tag with
      | true => rw [hown hv, spill_empty]
      | false => rw [spill_element hv, spillAll_of_hollow hchildren]

theorem spillAll_of_hollow : ∀ {ns : List Node}, Everywhere Hollow ns → spillAll ns = ns
  | [], _ => by rw [spillAll]
  | n :: ns, h => by
      obtain ⟨hn, hns⟩ := everywhere_cons.mp h
      rw [spillAll_cons, Node.spill_of_hollow hn, spillAll_of_hollow hns, List.singleton_append]

end

/-- The length of an element as it is written. -/
theorem length_write_element (tag : String) (attributes : Attributes) (ns : List Node) :
    (Node.element tag attributes ns).write.length = tag.toList.length + attributes.write.length +
      (if ns = [] then 3 else (writeAll ns).length + tag.toList.length + 5) := by
  rw [Node.write]
  cases ns with
  | nil => simp; omega
  | cons n ns => simp; omega

mutual

/-- What a node spills is written shorter, unless it spills nothing. -/
theorem Node.length_spill : ∀ n : Node, (writeAll n.spill).length ≤ n.write.length ∧
    ((writeAll n.spill).length = n.write.length → n.Everywhere Hollow)
  | .text content => by simp [spill_text, writeAll, Hollow]
  | .element tag attributes children => by
      have ih := length_spillAll children
      by_cases hchildren : children = []
      · subst hchildren
        simp [spill_empty, writeAll, Hollow]
      · have hspilled := mt spillAll_eq_nil_iff.mp hchildren
        cases hv : isVoid tag with
        | true =>
            -- the closing tag is lost
            simp only [spill_void hv, writeAll, List.length_append, length_write_element,
              hchildren, if_true, if_false]
            omega
        | false =>
            simp only [spill_element hv, writeAll, List.append_nil, length_write_element,
              hchildren, hspilled, if_false, Node.everywhere_element, Hollow, hv]
            exact ⟨by omega, fun h => ⟨nofun, ih.2 (by omega)⟩⟩

/-- What nodes spill is written shorter, unless they spill nothing. -/
theorem length_spillAll : ∀ ns : List Node, (writeAll (spillAll ns)).length ≤ (writeAll ns).length ∧
    ((writeAll (spillAll ns)).length = (writeAll ns).length → Everywhere Hollow ns)
  | [] => by simp [spillAll]
  | n :: ns => by
      have hn := n.length_spill
      have hns := length_spillAll ns
      rw [spillAll_cons, writeAll_append, writeAll, List.length_append, List.length_append,
        everywhere_cons]
      exact ⟨by omega, fun h => ⟨hn.2 (by omega), hns.2 (by omega)⟩⟩

end

/-- **Spilling changes what is written exactly if there is something to spill.** -/
theorem writeAll_spillAll_eq_iff : writeAll (spillAll ns) = writeAll ns ↔ Everywhere Hollow ns :=
  ⟨fun h => (length_spillAll ns).2 (congrArg List.length h), fun h => by rw [spillAll_of_hollow h]⟩

end MarkupTemplates.Markup
