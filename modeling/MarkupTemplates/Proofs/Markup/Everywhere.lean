import MarkupTemplates.Markup.Node

/-!
# Properties of all nodes of a tree

`Everywhere P nodes` says that `P` holds of all nodes of a tree, at every depth.  It is decidable if
`P` is.
-/

namespace MarkupTemplates.Markup

variable {P Q : Node → Prop} {ms ns : List Node}

mutual

/-- The property holds of a node and of all nodes below it. -/
def Node.Everywhere (P : Node → Prop) : Node → Prop
  | .text content => P (.text content)
  | .element tag attributes children =>
    P (.element tag attributes children) ∧ Everywhere P children

/-- The property holds of all nodes of a tree, at every depth. -/
def Everywhere (P : Node → Prop) : List Node → Prop
  | [] => True
  | n :: ns => n.Everywhere P ∧ Everywhere P ns

end

@[simp] theorem Node.everywhere_text {content : String} :
    (Node.text content).Everywhere P ↔ P (.text content) := by rw [Node.Everywhere]

@[simp] theorem Node.everywhere_element {tag : String} {attributes : Attributes} :
    (Node.element tag attributes ns).Everywhere P ↔
      P (.element tag attributes ns) ∧ Markup.Everywhere P ns := by rw [Node.Everywhere]

@[simp] theorem everywhere_nil : Everywhere P [] := by rw [Everywhere]; trivial

@[simp] theorem everywhere_cons {n : Node} :
    Everywhere P (n :: ns) ↔ n.Everywhere P ∧ Everywhere P ns := by rw [Everywhere]

theorem everywhere_singleton {n : Node} : Everywhere P [n] ↔ n.Everywhere P := by simp

/-- What holds everywhere holds in each node of the list. -/
theorem everywhere_iff_forall_mem : Everywhere P ns ↔ ∀ n ∈ ns, n.Everywhere P := by
  induction ns with
  | nil => simp
  | cons n ns ih => simp [ih]

@[simp] theorem everywhere_append :
    Everywhere P (ms ++ ns) ↔ Everywhere P ms ∧ Everywhere P ns := by
  induction ms with
  | nil => simp
  | cons m ms ih => simp [ih, and_assoc]

mutual

/-- What follows from a property at each node follows from it everywhere. -/
theorem Node.Everywhere.imp (h : ∀ n, P n → Q n) : ∀ n : Node, n.Everywhere P → n.Everywhere Q
  | .text content, hn => by
      rw [Node.everywhere_text] at hn ⊢; exact h _ hn
  | .element tag attributes children, hn => by
      rw [Node.everywhere_element] at hn ⊢
      exact ⟨h _ hn.1, Everywhere.imp h children hn.2⟩

/-- What follows from a property at each node follows from it everywhere, in a list. -/
theorem Everywhere.imp (h : ∀ n, P n → Q n) : ∀ ns : List Node, Everywhere P ns → Everywhere Q ns
  | [], _ => everywhere_nil
  | n :: ns, hns => by
      rw [everywhere_cons] at hns ⊢
      exact ⟨Node.Everywhere.imp h n hns.1, Everywhere.imp h ns hns.2⟩

end

mutual

theorem Node.Everywhere.and : ∀ {n : Node}, n.Everywhere P → n.Everywhere Q →
    n.Everywhere fun n => P n ∧ Q n
  | .text _, hp, hq =>
      Node.everywhere_text.mpr ⟨Node.everywhere_text.mp hp, Node.everywhere_text.mp hq⟩
  | .element _ _ _, hp, hq => by
      obtain ⟨hp, hps⟩ := Node.everywhere_element.mp hp
      obtain ⟨hq, hqs⟩ := Node.everywhere_element.mp hq
      exact Node.everywhere_element.mpr ⟨⟨hp, hq⟩, Everywhere.and hps hqs⟩

/-- Two properties hold everywhere in a list if each does. -/
theorem Everywhere.and : ∀ {ns : List Node}, Everywhere P ns → Everywhere Q ns →
    Everywhere (fun n => P n ∧ Q n) ns
  | [], _, _ => everywhere_nil
  | _ :: _, hp, hq =>
      everywhere_cons.mpr ⟨Node.Everywhere.and (everywhere_cons.mp hp).1 (everywhere_cons.mp hq).1,
        Everywhere.and (everywhere_cons.mp hp).2 (everywhere_cons.mp hq).2⟩

end

mutual

theorem Node.everywhere_trivial : ∀ n : Node, n.Everywhere fun _ => True
  | .text _ => Node.everywhere_text.mpr trivial
  | .element _ _ children =>
      Node.everywhere_element.mpr ⟨trivial, Markup.everywhere_trivial children⟩

theorem everywhere_trivial : ∀ ns : List Node, Everywhere (fun _ => True) ns
  | [] => everywhere_nil
  | n :: ns => everywhere_cons.mpr ⟨Node.everywhere_trivial n, Markup.everywhere_trivial ns⟩

end

/-! ### Deciding -/

mutual

/-- Whether a decidable property holds of a node and of all nodes below it. -/
def Node.decidableEverywhere (P : Node → Prop) [DecidablePred P] :
    ∀ n : Node, Decidable (n.Everywhere P)
  | .text _ => decidable_of_iff _ Node.everywhere_text.symm
  | .element tag attributes children =>
    have := decidableEverywhere P children
    decidable_of_iff (P (.element tag attributes children) ∧ Markup.Everywhere P children)
      Node.everywhere_element.symm

/-- Whether a decidable property holds of all nodes of a tree. -/
def decidableEverywhere (P : Node → Prop) [DecidablePred P] :
    ∀ ns : List Node, Decidable (Everywhere P ns)
  | [] => .isTrue everywhere_nil
  | n :: ns =>
    have := n.decidableEverywhere P
    have := decidableEverywhere P ns
    decidable_of_iff (n.Everywhere P ∧ Everywhere P ns) everywhere_cons.symm

end

instance (P : Node → Prop) [DecidablePred P] (ns : List Node) : Decidable (Everywhere P ns) :=
  decidableEverywhere P ns

end MarkupTemplates.Markup
