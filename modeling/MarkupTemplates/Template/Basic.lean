import MarkupTemplates.Markup.Node
import MarkupTemplates.Path.Basic
import MarkupTemplates.Text.Span

/-!
# Templates

A template has an id and a body.  A *root* is markup of its own.  A *copy* takes the tree of another
template and edits it with directives.  An *in-place layer* edits the template whose id it bears,
for everyone; layers of one template apply by ascending priority.

A directive is a path, an action on the elements the path addresses, and the nodes the action uses.
-/

namespace MarkupTemplates

open Markup (Node)
open Text (Span)

/-- Where a template was declared: the name of a source and the place in it. -/
structure Origin where
  /-- The name of the source. -/
  source : String
  /-- The place of the declaration. -/
  span : Span
deriving DecidableEq, Repr

/-- An origin as it is written. -/
def Origin.text (o : Origin) : String := o.source ++ "@" ++ o.span.text

/-- The origin of templates that were built in code. -/
def Origin.inline : Origin := ⟨"<inline>", ⟨0, 0⟩⟩

/-- How a template extends another one. -/
inductive Mode where
  /-- By changing it where it stands. -/
  | inPlace
  /-- By changing a copy of it. -/
  | copy
deriving DecidableEq, Repr

namespace Mode

/-- The name of a mode. -/
def name : Mode → String
  | .inPlace => "in-place"
  | .copy => "copy"

/-- The mode with a name. -/
def ofName? (s : String) : Option Mode := [Mode.inPlace, .copy].find? (·.name == s)

theorem ofName?_name (m : Mode) : ofName? m.name = some m := by cases m <;> decide

/-- How a template with or without a mode is called: one without is a root. -/
def label : Option Mode → String
  | some mode => mode.name
  | none => "root"

/-- What is said of a name that is no mode. -/
def unknownMessage (s : String) : String :=
  "unknown mode '" ++ s ++ "' (expected 'in-place' or 'copy')"

end Mode

/-- What a directive does with the elements it addresses. -/
inductive Action where
  /-- Puts the payload after the children. -/
  | insertInside
  /-- Puts the payload before the element. -/
  | insertBefore
  /-- Puts the payload after the element. -/
  | insertAfter
  /-- Puts the payload in place of the element. -/
  | replace
  /-- Drops the element. -/
  | remove
  /-- Merges the attributes of the payload into those of the element. -/
  | setAttributes
deriving DecidableEq, Repr

namespace Action

/-- The name of an action. -/
def name : Action → String
  | .insertInside => "insertInside"
  | .insertBefore => "insertBefore"
  | .insertAfter => "insertAfter"
  | .replace => "replace"
  | .remove => "remove"
  | .setAttributes => "setAttributes"

/-- The action with a name. -/
def ofName? (s : String) : Option Action :=
  [insertInside, insertBefore, insertAfter, replace, remove, setAttributes].find? (·.name == s)

theorem ofName?_name (a : Action) : ofName? a.name = some a := by cases a <;> decide

/-- What is said of a name that is no action. -/
def unknownMessage (s : String) : String := "unknown action '" ++ s ++ "'"

end Action

/-- An edit of the elements a path addresses. -/
structure Directive where
  /-- The path to the elements. -/
  path : Path
  /-- What is done with them. -/
  action : Action
  /-- The nodes the action uses. -/
  payload : List Node
  /-- Whether the path may address more than one element. -/
  multiple : Bool := false
  /-- The place of the declaration. -/
  span : Span := ⟨0, 0⟩
deriving Repr

/-- What a template consists of. -/
inductive Body where
  /-- Markup of its own. -/
  | root (content : List Node)
  /-- A copy of the template `target`, edited. -/
  | copy (target : String) (directives : List Directive)
  /-- An edit of the template `target` where it stands. -/
  | layer (target : String) (priority : Int) (directives : List Directive)
deriving Repr

/-- A template under an id. -/
structure Template where
  /-- The id. -/
  id : String
  /-- What the template consists of. -/
  body : Body
  /-- Where it was declared. -/
  origin : Origin := .inline
deriving Repr

namespace Template

/-- How the template extends another one; a root extends none. -/
def mode? (t : Template) : Option Mode :=
  match t.body with
  | .root _ => none
  | .copy _ _ => some .copy
  | .layer _ _ _ => some .inPlace

/-- The mode of a template in words. -/
def modeName (t : Template) : String := Mode.label t.mode?

/-- Whether the template is an in-place layer. -/
def isLayer (t : Template) : Bool := t.mode? == some .inPlace

/-- The priority of a layer; other templates have priority 0. -/
def priority (t : Template) : Int :=
  match t.body with
  | .layer _ priority _ => priority
  | _ => 0

/-- The directives of a copy or layer. -/
def directives (t : Template) : List Directive :=
  match t.body with
  | .root _ => []
  | .copy _ directives => directives
  | .layer _ _ directives => directives

/-- The template that a copy takes its tree from. -/
def copied? (t : Template) : Option String :=
  match t.body with
  | .copy target _ => some target
  | _ => none

/-- The template that a layer edits. -/
def layered? (t : Template) : Option String :=
  match t.body with
  | .layer target _ _ => some target
  | _ => none

/-- The node lists a template is written with: its content, or the payloads of its directives. -/
def parts (t : Template) : List (List Node) :=
  match t.body with
  | .root content => [content]
  | .copy _ directives => directives.map (·.payload)
  | .layer _ _ directives => directives.map (·.payload)

end Template

end MarkupTemplates
