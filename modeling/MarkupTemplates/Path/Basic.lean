import MarkupTemplates.Markup.Attributes

/-!
# Path expressions

A path addresses elements of a markup tree.  It is a list of steps; each step goes to the children
or to all descendants of the elements reached so far and keeps those that pass its tag test and
all its predicates.
-/

namespace MarkupTemplates.Path

open Markup (Attributes)

/-- The direction of a step. -/
inductive Axis where
  /-- To the children. -/
  | child
  /-- To the descendants at any depth. -/
  | descendant
deriving DecidableEq, Repr

/-- The test a step puts to the tag of an element. -/
inductive TagTest where
  /-- Any tag will do. -/
  | any
  /-- The tag must be this name. -/
  | named (name : String)
deriving DecidableEq, Repr

/-- The test a step puts to the attributes of an element. -/
inductive Predicate where
  /-- The attribute must be there. -/
  | present (name : String)
  /-- The attribute must be there with this value. -/
  | equal (name value : String)
deriving DecidableEq, Repr

/-- One step of a path. -/
structure Step where
  /-- The direction. -/
  axis : Axis
  /-- The tag test. -/
  test : TagTest
  /-- The predicates, all of which must hold. -/
  predicates : List Predicate
deriving DecidableEq, Repr

/-- Whether a tag passes the test. -/
def TagTest.accepts (tag : String) : TagTest → Bool
  | .any => true
  | .named name => name == tag

/-- Whether attributes satisfy the predicate. -/
def Predicate.holds (attributes : Attributes) : Predicate → Bool
  | .present name => attributes.contains name
  | .equal name value => attributes.get? name == some value

/-- Whether an element with this tag and these attributes passes the step's tests. -/
def Step.accepts (step : Step) (tag : String) (attributes : Attributes) : Bool :=
  step.test.accepts tag && step.predicates.all (·.holds attributes)

end MarkupTemplates.Path

namespace MarkupTemplates

/-- A path expression with the text it was read from, trimmed. -/
structure Path where
  /-- The text of the path. -/
  source : String
  /-- The steps from the top of the tree. -/
  steps : List Path.Step
deriving DecidableEq, Repr

end MarkupTemplates
