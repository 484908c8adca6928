import MarkupTemplates.Markup.Attributes
import MarkupTemplates.Text.Blank

/-!
# Markup trees

A markup tree is a list of nodes: elements with a tag, attributes and children, and texts.
-/

namespace MarkupTemplates.Markup

/-- A node of a markup tree. -/
inductive Node where
  /-- An element with its tag, attributes and children. -/
  | element (tag : String) (attributes : Attributes) (children : List Node)
  /-- A run of text. -/
  | text (content : String)
deriving Repr, Inhabited

namespace Node

/-- The tag of an element. -/
def tag? : Node → Option String
  | .element tag _ _ => some tag
  | .text _ => none

/-- The children of an element; a text has none. -/
def children : Node → List Node
  | .element _ _ children => children
  | .text _ => []

/-- Whether a node is a text of white space only. -/
def isBlank : Node → Bool
  | .element _ _ _ => false
  | .text content => Text.isBlankText content

end Node

/-- The elements of HTML that never have content nor a closing tag. -/
def voidTags : List String :=
  ["area", "base", "br", "col", "embed", "hr", "img", "input", "link", "meta", "source", "track",
   "wbr"]

/-- Whether a tag, in whichever ASCII case, names an element without content. -/
def isVoid (tag : String) : Bool := voidTags.contains (tag.map Char.toLower)

end MarkupTemplates.Markup
