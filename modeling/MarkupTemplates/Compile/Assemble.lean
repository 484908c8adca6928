import MarkupTemplates.Dependency.Walk
import MarkupTemplates.Template.Edit

/-!
# Putting a template together

`assemble` makes the tree of one id out of the trees it depends on: a root's content with its
includes replaced, or the tree of the copied template after the copy's directives; and then the
directives of each layer, in the order of the layers.  How the other trees come about is left to the
function that `assemble` is given.
-/

namespace MarkupTemplates

open Markup (Node)

/-- A template that had a part in a compiled tree. -/
structure Contributor where
  /-- Its id. -/
  id : String
  /-- Its mode. -/
  mode? : Option Mode
  /-- Where it was declared. -/
  origin : Origin
deriving DecidableEq, Repr

/-- The part of a template in a compiled tree. -/
def Template.contributor (t : Template) : Contributor := ⟨t.id, t.mode?, t.origin⟩

/-- A compiled template: a tree without directives and includes. -/
structure Compiled where
  /-- The id. -/
  id : String
  /-- The tree. -/
  tree : List Node
  /-- The templates that had a part in it, in the order in which they were applied. -/
  contributors : List Contributor
deriving Repr

/-- A compiled template, or why there is none. -/
abbrev Outcome := Except ResolutionError Compiled

variable {m : Type → Type} [Monad m]

/-- Edits a tree with directives of the template `id`, after the includes of their payloads have
been replaced by the trees that `compile` answers. -/
def patchTree (compile : String → ExceptT ResolutionError m Compiled) (id : String)
    (tree : List Node) (directives : List Directive) : ExceptT ResolutionError m (List Node) := do
  let directives ← directives.mapM (Directive.expand fun target => Compiled.tree <$> compile target)
  ExceptT.mk (pure (applyAll id tree directives))

/-- The tree and the contributors of the definition of `id`, without its layers. -/
def assembleBase (compile : String → ExceptT ResolutionError m Compiled) (id : String)
    (t : Template) : ExceptT ResolutionError m (List Node × List Contributor) := do
  match t.body with
  | .root content =>
    let tree ← expandAll (fun target => Compiled.tree <$> compile target) content
    return (tree, [t.contributor])
  | .copy target directives =>
    let base ← compile target
    let tree ← patchTree compile id base.tree directives
    return (tree, base.contributors ++ [t.contributor])
  | .layer _ _ _ => return ([], [t.contributor])

/-- The tree of `id` and its contributors after one layer more. -/
def assembleLayer (compile : String → ExceptT ResolutionError m Compiled) (id : String)
    (done : List Node × List Contributor) (layer : Template) :
    ExceptT ResolutionError m (List Node × List Contributor) := do
  let tree ← patchTree compile id done.1 layer.directives
  return (tree, done.2 ++ [layer.contributor])

/-- Compiles an id, given how the ids it depends on are compiled. -/
def assemble (s : Store) (compile : String → ExceptT ResolutionError m Compiled) (id : String) :
    ExceptT ResolutionError m Compiled := do
  ExceptT.mk (pure (s.graph.checkFrom id))
  match s.definition? id with
  | none => throw (.notFound id)
  | some t =>
    let base ← assembleBase compile id t
    let (tree, contributors) ← (s.layers id).foldlM (assembleLayer compile id) base
    return ⟨id, tree, contributors⟩

end MarkupTemplates
