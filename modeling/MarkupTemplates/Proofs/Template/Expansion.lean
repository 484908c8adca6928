import MarkupTemplates.Proofs.Template.Editing
import MarkupTemplates.Proofs.Template.Includes

/-!
# Expansion node by node

`replaceIncludes` puts trees in the place of includes by recursion on the nodes.  Expansion in place
comes to the same (`expandFrom_eq`, `expandAll_eq`): what stands before the position it has reached is
done, and what it has put in there is not looked at.  Elements that it leaves alone have no includes
below them, and nodes without includes (`IncludeFree`) stay as they are (`replaceIncludes_eq_pure`).

The includes of nodes that a source holds all name a template (`SoundIncludes.named`).
-/

namespace MarkupTemplates

open Markup (Node Attributes Everywhere everywhere_nil everywhere_cons everywhere_append)

/-- The node is no include. -/
def NoInclude (n : Node) : Prop := n.tag? ≠ some includeTag

/-- The node names a template if it is an include. -/
def NamedInclude : Node → Prop
  | .text _ => True
  | .element tag attributes _ => tag = includeTag → (attributes.get? includeKey).isSome = true

/-- There is no include in the nodes, at any depth. -/
def IncludeFree (nodes : List Node) : Prop := Everywhere NoInclude nodes

/-- Every include in the nodes, at any depth, names a template. -/
def NamedIncludes (nodes : List Node) : Prop := Everywhere NamedInclude nodes

theorem noInclude_text (content : String) : NoInclude (.text content) := by
  simp [NoInclude, Node.tag?]

theorem noInclude_element {tag : String} {attributes : Attributes} {children : List Node} :
    NoInclude (.element tag attributes children) ↔ tag ≠ includeTag := by
  simp [NoInclude, Node.tag?]

mutual

theorem containsIncludeNode_eq_false_iff : ∀ {n : Node},
    containsIncludeNode n = false ↔ n.Everywhere NoInclude
  | .text content => by simp [containsIncludeNode, Node.everywhere_text, noInclude_text]
  | .element tag attributes children => by
      rw [containsIncludeNode, Node.everywhere_element, Bool.or_eq_false_iff, beq_eq_false_iff_ne,
        noInclude_element, containsInclude_eq_false_iff]
      rfl

/-- The search for an include finds none exactly if there is none at any depth. -/
theorem containsInclude_eq_false_iff : ∀ {ns : List Node},
    containsInclude ns = false ↔ IncludeFree ns
  | [] => by simp [containsInclude, IncludeFree, everywhere_nil]
  | n :: ns => by
      rw [containsInclude, Bool.or_eq_false_iff, containsIncludeNode_eq_false_iff,
        containsInclude_eq_false_iff]
      exact everywhere_cons.symm

end

mutual

theorem SoundInclude.named : ∀ {n : Node}, SoundInclude n → n.Everywhere NamedInclude
  | .text _, _ => trivial
  | .element _ _ _, h =>
      Node.everywhere_element.mpr ⟨fun htag => (h.1 htag).1, SoundIncludes.named h.2⟩

/-- Sound includes all name a template. -/
theorem SoundIncludes.named : ∀ {ns : List Node}, SoundIncludes ns → NamedIncludes ns
  | [], _ => everywhere_nil
  | _ :: _, h => everywhere_cons.mpr ⟨SoundInclude.named h.1, SoundIncludes.named h.2⟩

end

mutual

theorem soundInclude_of_everywhere : ∀ {n : Node}, n.Everywhere NoInclude → SoundInclude n
  | .text _, _ => trivial
  | .element _ _ _, h => by
      obtain ⟨htag, hchildren⟩ := Node.everywhere_element.mp h
      exact ⟨fun e => absurd e (noInclude_element.mp htag), IncludeFree.sound hchildren⟩

/-- Nodes without includes have no include that could be unsound. -/
theorem IncludeFree.sound : ∀ {ns : List Node}, IncludeFree ns → SoundIncludes ns
  | [], _ => trivial
  | _ :: _, h =>
      ⟨soundInclude_of_everywhere (everywhere_cons.mp h).1,
        IncludeFree.sound (everywhere_cons.mp h).2⟩

end

/-! ### Node by node -/

section

variable {m : Type → Type} [Monad m]

mutual

/-- The nodes that stand for a node once `f` has answered for each of its outermost includes; `f` is
given the name and the include itself. -/
def replaceIncludesNode (f : String → Node → m (List Node)) : Node → m (List Node)
  | .text content => pure [.text content]
  | .element tag attributes children =>
    if tag = includeTag then
      match attributes.get? includeKey with
      | some id => f id (.element tag attributes children)
      | none => pure [.element tag attributes children]
    else do
      let children ← replaceIncludes f children
      return [.element tag attributes children]

/-- The nodes with what `f` answers in the place of each outermost include. -/
def replaceIncludes (f : String → Node → m (List Node)) : List Node → m (List Node)
  | [] => pure []
  | n :: ns => do
    let here ← replaceIncludesNode f n
    let rest ← replaceIncludes f ns
    return here ++ rest

end

variable [LawfulMonad m] (f : String → Node → m (List Node))

mutual

/-- A node without includes stays as it is. -/
theorem replaceIncludesNode_eq_pure : ∀ {n : Node}, n.Everywhere NoInclude →
    replaceIncludesNode f n = pure [n]
  | .text content, _ => by rw [replaceIncludesNode]
  | .element tag attributes children, h => by
      obtain ⟨htag, hchildren⟩ := Node.everywhere_element.mp h
      rw [replaceIncludesNode, if_neg (noInclude_element.mp htag),
        replaceIncludes_eq_pure hchildren, pure_bind]

/-- **Nodes without includes stay as they are.** -/
theorem replaceIncludes_eq_pure : ∀ {ns : List Node}, IncludeFree ns →
    replaceIncludes f ns = pure ns
  | [], _ => by rw [replaceIncludes]
  | n :: ns, h => by
      obtain ⟨hn, hns⟩ := everywhere_cons.mp h
      rw [replaceIncludes, replaceIncludesNode_eq_pure hn, pure_bind,
        replaceIncludes_eq_pure hns, pure_bind]
      rfl

end

variable {f} {nodes : List Node} {i : Nat} {n : Node}

/-- Replacing from a position on, with the node at that position taken first. -/
theorem map_replaceIncludes_drop (h : nodes[i]? = some n) :
    (nodes.take i ++ ·) <$> replaceIncludes f (nodes.drop i) = (do
      let here ← replaceIncludesNode f n
      (nodes.take i ++ here ++ ·) <$> replaceIncludes f (nodes.drop (i + 1))) := by
  obtain ⟨hi, rfl⟩ := List.getElem?_eq_some_iff.mp h
  rw [List.drop_eq_getElem_cons hi, replaceIncludes]
  simp only [map_eq_pure_bind, bind_assoc, pure_bind, List.append_assoc]

/-- A node that stays as it is can be passed over. -/
theorem map_replaceIncludes_drop_succ (h : nodes[i]? = some n)
    (hn : replaceIncludesNode f n = pure [n]) :
    (nodes.take (i + 1) ++ ·) <$> replaceIncludes f (nodes.drop (i + 1)) =
      (nodes.take i ++ ·) <$> replaceIncludes f (nodes.drop i) := by
  rw [map_replaceIncludes_drop h, hn, pure_bind, List.take_add_one, h]
  rfl

/-- **Expansion in place replaces node by node**: what stands before the position is kept, and what
was put in is not looked at. -/
theorem expandFrom_eq (nodes : List Node) (i : Nat) :
    expandFrom f nodes i = (nodes.take i ++ ·) <$> replaceIncludes f (nodes.drop i) := by
  fun_induction expandFrom f nodes i with
  | case1 nodes i h =>
      have hi : nodes.length ≤ i := List.getElem?_eq_none_iff.mp h
      rw [List.drop_of_length_le hi, List.take_of_length_le hi, replaceIncludes, map_pure,
        List.append_nil]
  | case2 nodes i content h ih =>
      rw [ih]
      exact map_replaceIncludes_drop_succ h (by rw [replaceIncludesNode])
  | case3 nodes i attributes children id hid h ih =>
      have hi : i ≤ nodes.length := Nat.le_of_lt (List.getElem?_eq_some_iff.mp h).1
      rw [map_replaceIncludes_drop h, replaceIncludesNode, if_pos rfl, hid]
      refine bind_congr fun content => ?_
      rw [ih, drop_after_splice hi, List.take_left' (by simp [hi])]
  | case4 nodes i attributes children hid h ih =>
      rw [ih]
      exact map_replaceIncludes_drop_succ h (by rw [replaceIncludesNode, if_pos rfl, hid])
  | case5 nodes i tag attributes children h htag _ ihchildren ih =>
      have hi : i < nodes.length := (List.getElem?_eq_some_iff.mp h).1
      have hchildren : expandFrom f children 0 = replaceIncludes f children := by
        simpa using ihchildren
      rw [map_replaceIncludes_drop h, replaceIncludesNode, if_neg htag, bind_assoc, hchildren]
      refine bind_congr fun after => ?_
      rw [ih, pure_bind, List.drop_set_of_lt (Nat.lt_succ_self i), List.take_add_one,
        List.take_set_of_le (Nat.le_refl i), List.getElem?_set_self hi]
      rfl
  | case6 nodes i tag attributes children h htag hfree ih =>
      have hfree : IncludeFree children :=
        containsInclude_eq_false_iff.mp (Bool.eq_false_iff.mpr hfree)
      have hnode : (Node.element tag attributes children).Everywhere NoInclude :=
        Node.everywhere_element.mpr ⟨noInclude_element.mpr htag, hfree⟩
      rw [ih]
      exact map_replaceIncludes_drop_succ h (replaceIncludesNode_eq_pure f hnode)

/-- **Includes are replaced node by node.** -/
theorem expandAll_eq (resolve : String → m (List Node)) (nodes : List Node) :
    expandAll resolve nodes = replaceIncludes (fun id _ => resolve id) nodes := by
  rw [expandAll, expandFrom_eq]
  simp

end

mutual

theorem includesInNode_eq_nil : ∀ {n : Node}, n.Everywhere NoInclude → includesInNode n = []
  | .text content, _ => by rw [includesInNode]
  | .element tag attributes children, h => by
      obtain ⟨htag, hchildren⟩ := Node.everywhere_element.mp h
      rw [includesInNode, if_neg (noInclude_element.mp htag), includesIn_eq_nil hchildren]
      rfl

/-- Nodes without includes depend on no template. -/
theorem includesIn_eq_nil : ∀ {ns : List Node}, IncludeFree ns → includesIn ns = []
  | [], _ => by rw [includesIn]
  | n :: ns, h => by
      obtain ⟨hn, hns⟩ := everywhere_cons.mp h
      rw [includesIn, includesInNode_eq_nil hn, includesIn_eq_nil hns]
      rfl

end

end MarkupTemplates
