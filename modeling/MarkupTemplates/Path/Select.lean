import MarkupTemplates.Markup.Index
import MarkupTemplates.Path.Basic

/-!
# The elements a path addresses

`Path.select` answers the indices of the elements a path addresses, in document order and without
repetition.  It goes from context to context: every step collects, below each index of the context
before it, the children or descendants that pass its tests.  Contexts may lie inside each other and
descendants are collected from a worklist, so what a step has collected is put in order before the
next step, and repetitions are dropped.
-/

namespace MarkupTemplates.Path

open Markup (Node Index inOrder childrenAt?)

/-- Whether a node is an element that passes the step's tests. -/
def Step.admits (step : Step) : Node → Bool
  | .element tag attributes _ => step.accepts tag attributes
  | .text _ => false

/-- The indices of those of the nodes below `base` that pass the step's tests. -/
def Step.amongChildren (step : Step) (base : Index) (nodes : List Node) : List Index :=
  (nodes.zipIdx.filter (step.admits ·.1)).map (base ++ [·.2])

/-! ### The worklist -/

/-- Lists of nodes, each with the index of the element whose children they are. -/
abbrev Worklist := List (Index × List Node)

/-- The size of all nodes in a worklist. -/
noncomputable def Worklist.size (pending : Worklist) : Nat :=
  pending.foldr (fun entry size => sizeOf entry.2 + size) 0

theorem Worklist.size_append {pending more : Worklist} :
    Worklist.size (pending ++ more) = pending.size + more.size := by
  induction pending with
  | nil => simp [size]
  | cons entry pending ih =>
    simp only [size, List.cons_append, List.foldr_cons] at ih ⊢
    omega

theorem Worklist.size_reverse {pending : Worklist} :
    Worklist.size pending.reverse = pending.size := by
  induction pending with
  | nil => rfl
  | cons entry pending ih =>
    rw [List.reverse_cons, size_append, ih]
    simp only [size, List.foldr_cons, List.foldr_nil]
    omega

/-- The children of those of the nodes below `base` that have any. -/
def inner (base : Index) (nodes : List Node) : Worklist :=
  (nodes.zipIdx.filter (!·.1.children.isEmpty)).map fun entry =>
    (base ++ [entry.2], entry.1.children)

theorem sizeOf_children_lt {n : Node} (h : n.children.isEmpty = false) :
    sizeOf n.children < sizeOf n := by
  cases n with
  | element tag attributes children =>
    simp only [Node.children, Node.element.sizeOf_spec]
    omega
  | text content => simp [Node.children] at h

/-- What is left to look at below a list is smaller than the list. -/
theorem size_inner_lt (base : Index) (nodes : List Node) :
    (inner base nodes).size < sizeOf nodes := by
  suffices h : ∀ i, Worklist.size (((nodes.zipIdx i).filter (!·.1.children.isEmpty)).map
      fun entry => (base ++ [entry.2], entry.1.children)) < sizeOf nodes from h 0
  induction nodes with
  | nil => simp [Worklist.size]
  | cons n ns ih =>
    intro i
    have hrest := ih (i + 1)
    rw [List.zipIdx_cons, List.filter_cons]
    split
    · rename_i h
      have hown : sizeOf n.children < sizeOf n := sizeOf_children_lt (by simpa using h)
      simp only [Worklist.size, List.map_cons, List.foldr_cons, List.cons.sizeOf_spec] at hrest ⊢
      omega
    · simp only [List.cons.sizeOf_spec]; omega

/-- The indices of all nodes that pass the step's tests, in and below the lists of a worklist.  The
lists that are found one level below a list come next, the last one first. -/
def Step.amongDescendants (step : Step) : Worklist → List Index
  | [] => []
  | (base, nodes) :: pending =>
    step.amongChildren base nodes ++ step.amongDescendants ((inner base nodes).reverse ++ pending)
termination_by pending => pending.size
decreasing_by
  rw [Worklist.size_append, Worklist.size_reverse]
  exact Nat.add_lt_add_right (size_inner_lt base nodes) _

/-! ### Steps and paths -/

/-- The indices a step leads to from one index, not yet in order. -/
def Step.collect (nodes : List Node) (step : Step) (base : Index) : List Index :=
  match childrenAt? nodes base with
  | none => []
  | some children =>
    match step.axis with
    | .child => step.amongChildren base children
    | .descendant => step.amongDescendants [(base, children)]

/-- The indices a step leads to from the indices of a context. -/
def Step.select (nodes : List Node) (context : List Index) (step : Step) : List Index :=
  ((context.flatMap (step.collect nodes)).mergeSort inOrder).eraseReps

end MarkupTemplates.Path

namespace MarkupTemplates

/-- The indices of the elements a path addresses, in document order. -/
def Path.select (nodes : List Markup.Node) (path : Path) : List Markup.Index :=
  (path.steps.foldl (Path.Step.select nodes) [[]]).filter (· ≠ [])

end MarkupTemplates
