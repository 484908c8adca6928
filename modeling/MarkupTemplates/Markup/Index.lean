import MarkupTemplates.Markup.Node

/-!
# Positions in a markup tree

An `Index` names a node by the positions on the way down to it: the position in the top list, then
the position among that element's children, and so on.  The empty index names no node; it stands
for the root above the top list.
-/

namespace MarkupTemplates.Markup

/-- The positions on the way from the top of a tree to a node. -/
abbrev Index := List Nat

/-- The node at an index. -/
def nodeAt? : List Node → Index → Option Node
  | _, [] => none
  | nodes, [i] => nodes[i]?
  | nodes, i :: j :: rest =>
    match nodes[i]? with
    | some (.element _ _ children) => nodeAt? children (j :: rest)
    | _ => none

/-- The list of nodes in which the node at an index stands; its last position need not be there. -/
def siblings? : List Node → Index → Option (List Node)
  | _, [] => none
  | nodes, [_] => some nodes
  | nodes, i :: j :: rest =>
    match nodes[i]? with
    | some (.element _ _ children) => siblings? children (j :: rest)
    | _ => none

/-- Why a tree cannot be changed at an index. -/
inductive EditFault where
  /-- No element stands where one has to. -/
  | noElement
  /-- The change begins or ends beyond the end of a list of nodes. -/
  | outOfRange
deriving DecidableEq, Repr

/-- The tree with the list in which the node at an index stands changed by `f`. -/
def modifySiblings (f : List Node → Except EditFault (List Node)) :
    List Node → Index → Except EditFault (List Node)
  | _, [] => .error .noElement
  | nodes, [_] => f nodes
  | nodes, i :: j :: rest =>
    match nodes[i]? with
    | some (.element tag attributes children) =>
      (modifySiblings f children (j :: rest)).map fun children =>
        nodes.set i (.element tag attributes children)
    | _ => .error .noElement

/-- The list with `new` in place of its part from position `first` up to `last`. -/
def splice (first last : Nat) (new nodes : List Node) : Except EditFault (List Node) :=
  if first ≤ last ∧ last ≤ nodes.length then .ok (nodes.take first ++ new ++ nodes.drop last)
  else .error .outOfRange

/-- The list with the element at position `i` changed by `f`. -/
def modifyElement (i : Nat) (f : String → Attributes → List Node → Node) (nodes : List Node) :
    Except EditFault (List Node) :=
  match nodes[i]? with
  | some (.element tag attributes children) => .ok (nodes.set i (f tag attributes children))
  | _ => .error .noElement

/-- The children of the element at an index; the empty index stands for the root above the top
list. -/
def childrenAt? (nodes : List Node) (index : Index) : Option (List Node) :=
  if index = [] then some nodes
  else
    match nodeAt? nodes index with
    | some (.element _ _ children) => some children
    | _ => none

/-- Whether an index comes no later than another one in document order. -/
def inOrder : Index → Index → Bool
  | [], _ => true
  | _ :: _, [] => false
  | i :: p, j :: q => i < j || (i == j && inOrder p q)

end MarkupTemplates.Markup
