import MarkupTemplates.Markup.Node
import MarkupTemplates.Text.Span

/-!
# Markup trees with places

A `Located` node is a node of a markup tree together with the place in the text it was read from:
for an element from the `<` of its opening tag to the `>` of its closing tag.
-/

namespace MarkupTemplates.Markup

open Text (Span)

/-- A node with the place it was read from. -/
inductive Located where
  /-- An element with its tag, attributes, children and place. -/
  | element (tag : String) (attributes : Attributes) (children : List Located) (span : Span)
  /-- A run of text and its place. -/
  | text (content : String) (span : Span)
deriving Repr, Inhabited

namespace Located

/-- The place of a node. -/
def span : Located → Span
  | .element _ _ _ span => span
  | .text _ span => span

end Located

mutual

/-- The node without its place. -/
def Located.node : Located → Node
  | .element tag attributes children _ => .element tag attributes (nodesOf children)
  | .text content _ => .text content

/-- The nodes without their places. -/
def nodesOf : List Located → List Node
  | [] => []
  | n :: ns => n.node :: nodesOf ns

end

theorem nodesOf_eq_map (ns : List Located) : nodesOf ns = ns.map Located.node := by
  induction ns with
  | nil => rfl
  | cons n ns ih => simp [nodesOf, ih]

/-- An element with the place it was read from. -/
structure LocatedElement where
  /-- The tag. -/
  tag : String
  /-- The attributes. -/
  attributes : Attributes
  /-- The children. -/
  children : List Located
  /-- The place. -/
  span : Span
deriving Repr

end MarkupTemplates.Markup
