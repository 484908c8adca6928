import MarkupTemplates.Template.Basic

/-!
# Includes

An `include` element with a `template` attribute stands for the tree of the template it names.
`includesIn` lists the names that occur in nodes, at every depth.  `expandAll` puts trees in the place
of includes; the trees come from a function that may fail or keep a record.  It changes the list in
place, from position to position, and goes on behind what it has put in, so that no tree is looked
through again (`expandFrom`).
-/

namespace MarkupTemplates

open Markup (Node Attributes)

/-- The tag of elements that stand for a template. -/
def includeTag : String := "include"

/-- The attribute that names the template. -/
def includeKey : String := "template"

mutual

/-- The names of the templates that a node includes, in document order. -/
def includesInNode : Node → List String
  | .text _ => []
  | .element tag attributes children =>
    (if tag = includeTag then (attributes.get? includeKey).toList else []) ++ includesIn children

/-- The names of the templates that a list of nodes includes, in document order. -/
def includesIn : List Node → List String
  | [] => []
  | n :: ns => includesInNode n ++ includesIn ns

end

/-- The names of the templates that a template includes, in the order of its parts. -/
def Template.includes (t : Template) : List String := t.parts.flatMap includesIn

/-! ### Expansion in place -/

mutual

/-- Whether a node is an include or has one below it. -/
def containsIncludeNode : Node → Bool
  | .text _ => false
  | .element tag _ children => tag == includeTag || containsInclude children

/-- Whether there is an include among the nodes, at any depth. -/
def containsInclude : List Node → Bool
  | [] => false
  | n :: ns => containsIncludeNode n || containsInclude ns

end

theorem sizeOf_drop_succ_lt {nodes : List Node} {i : Nat} {n : Node} (h : nodes[i]? = some n) :
    sizeOf (nodes.drop (i + 1)) < sizeOf (nodes.drop i) := by
  obtain ⟨hi, -⟩ := List.getElem?_eq_some_iff.mp h
  rw [List.drop_eq_getElem_cons hi, List.cons.sizeOf_spec]
  omega

theorem sizeOf_children_lt_drop {nodes children : List Node} {i : Nat} {tag : String}
    {attributes : Attributes} (h : nodes[i]? = some (.element tag attributes children)) :
    sizeOf children < sizeOf (nodes.drop i) := by
  obtain ⟨hi, hn⟩ := List.getElem?_eq_some_iff.mp h
  rw [List.drop_eq_getElem_cons hi, hn, List.cons.sizeOf_spec, Node.element.sizeOf_spec]
  omega

/-- Behind a splice the nodes are those that stood behind the position. -/
theorem drop_after_splice {nodes content : List Node} {i : Nat} (hi : i ≤ nodes.length) :
    (nodes.take i ++ content ++ nodes.drop (i + 1)).drop (i + content.length) =
      nodes.drop (i + 1) :=
  List.drop_left' (by simp [hi])

variable {m : Type → Type} [Monad m]

/-- The list after its includes from position `i` on have been replaced by what `f` answers, which
is given the name and the include itself.  Elements are left alone if there is no include below them,
and so is what stands in an include. -/
def expandFrom (f : String → Node → m (List Node)) (nodes : List Node) (i : Nat) :
    m (List Node) :=
  match h : nodes[i]? with
  | none => return nodes
  | some (.text _) => expandFrom f nodes (i + 1)
  | some (.element tag attributes children) =>
    if tag = includeTag then
      match attributes.get? includeKey with
      | some id => do
        let content ← f id (.element tag attributes children)
        expandFrom f (nodes.take i ++ content ++ nodes.drop (i + 1)) (i + content.length)
      | none => expandFrom f nodes (i + 1)
    else if containsInclude children then do
      let children ← expandFrom f children 0
      expandFrom f (nodes.set i (.element tag attributes children)) (i + 1)
    else expandFrom f nodes (i + 1)
termination_by sizeOf (nodes.drop i)
decreasing_by
  · exact sizeOf_drop_succ_lt h
  · rw [drop_after_splice (Nat.le_of_lt (List.getElem?_eq_some_iff.mp h).1)]
    exact sizeOf_drop_succ_lt h
  · exact sizeOf_drop_succ_lt h
  · exact sizeOf_children_lt_drop h
  · rw [List.drop_set_of_lt (Nat.lt_succ_self i)]
    exact sizeOf_drop_succ_lt h
  · exact sizeOf_drop_succ_lt h

/-- The nodes with every include replaced by the tree that `resolve` answers for its name. -/
def expandAll (resolve : String → m (List Node)) (nodes : List Node) : m (List Node) :=
  expandFrom (fun id _ => resolve id) nodes 0

/-- The directive with the includes of its payload replaced. -/
def Directive.expand (resolve : String → m (List Node)) (d : Directive) : m Directive := do
  let payload ← expandAll resolve d.payload
  return { d with payload }

/-- How far an expansion has come: the names asked for, and the error that stopped it. -/
structure Expansion (ε : Type) where
  /-- The names asked for, in order. -/
  asked : List String := []
  /-- The error of the last one. -/
  error? : Option ε := none

/-- The answer for one include of an expansion that leaves the includes alone from the first error
on. -/
def Expansion.step {ε : Type} (resolve : String → Except ε (List Node)) (id : String)
    (node : Node) : StateM (Expansion ε) (List Node) := do
  let state ← get
  if state.error?.isSome then return [node]
  match resolve id with
  | .ok nodes =>
    set { state with asked := state.asked ++ [id] }
    return nodes
  | .error e =>
    set (⟨state.asked ++ [id], some e⟩ : Expansion ε)
    return [node]

/-- The nodes with their includes replaced up to the first one that `resolve` fails for, and how far
the expansion came. -/
def expandUntilError {ε : Type} (resolve : String → Except ε (List Node)) (nodes : List Node) :
    List Node × Expansion ε :=
  (expandFrom (Expansion.step resolve) nodes 0).run {}

end MarkupTemplates
