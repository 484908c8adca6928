import MarkupTemplates.Store.Basic

/-!
# Which templates depend on which

A template depends on the template it copies and on those it includes; the layers of an id count as
part of it.  The graph of a store has a vertex for each of its ids.
-/

namespace MarkupTemplates

/-- The templates that a template needs: the one it copies, then those it includes. -/
def Template.dependencies (t : Template) : List String := t.copied?.toList ++ t.includes

/-- An id in the graph of dependencies. -/
structure Vertex where
  /-- The id. -/
  id : String
  /-- The ids it depends on, each once, in the order in which they are named. -/
  dependencies : List String
  /-- Whether it has a definition. -/
  defined : Bool
deriving DecidableEq, Repr

/-- The ids of a store with what they depend on. -/
structure Graph where
  /-- The ids, in the order in which they first came. -/
  vertices : List Vertex
deriving DecidableEq, Repr

namespace Graph

/-- The vertex of an id. -/
def vertex? (g : Graph) (id : String) : Option Vertex := g.vertices.find? (·.id == id)

/-- The ids that an id depends on. -/
def dependencies (g : Graph) (id : String) : List String :=
  match g.vertex? id with
  | some v => v.dependencies
  | none => []

/-- Whether an id has a definition. -/
def isDefined (g : Graph) (id : String) : Bool := (g.vertex? id).any (·.defined)

/-- Whether an id has a definition or layers. -/
def isKnown (g : Graph) (id : String) : Bool := (g.vertex? id).isSome

end Graph

/-- What the templates of an id depend on. -/
def Store.dependencies (s : Store) (id : String) : List String :=
  ((s.templates.filter (·.id == id)).flatMap Template.dependencies).eraseDups

/-- The graph of a store. -/
def Store.graph (s : Store) : Graph :=
  ⟨s.slots.map fun slot => ⟨slot.id, s.dependencies slot.id, slot.definition?.isSome⟩⟩

end MarkupTemplates
