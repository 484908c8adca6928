import MarkupTemplates.Markup.Index
import MarkupTemplates.Path.Select
import MarkupTemplates.Template.ResolutionError

/-!
# Directives at work

`Directive.applyTo` finds the elements a directive addresses and edits them one after the other, the
last one first, so that an edit moves no element that is still to be edited.  The edits change the
tree in place; the payload is checked before anything is looked up, and the number of elements
before anything is edited.
-/

namespace MarkupTemplates

open Markup (Node Attributes Index EditFault modifySiblings modifyElement splice)

/-- The tag of the payload elements that carry attributes to set. -/
def attributeTag : String := "attribute"

/-- The mapping `acc` with the attributes of a list of attribute elements merged into it. -/
def mergeAttributeElements (acc : Attributes) : List Node → Except PayloadFault Attributes
  | [] => .ok acc
  | .element tag attributes [] :: rest =>
    if tag = attributeTag then mergeAttributeElements (acc.merge attributes) rest
    else .error .notAttributes
  | _ :: _ => .error .notAttributes

namespace Directive

/-- The attributes a directive sets, if its payload fits its action. -/
def checkPayload (d : Directive) : Except PayloadFault Attributes :=
  let content := d.payload.filter (!·.isBlank)
  match d.action with
  | .remove => if content.isEmpty then .ok ∅ else .error .unused
  | .setAttributes => do
    let attributes ← mergeAttributeElements ∅ content
    if attributes.isEmpty then .error .noAttributes else .ok attributes
  | _ => if content.isEmpty then .error .missing else .ok ∅

/-- The list with the element at position `i` edited. -/
def editList (d : Directive) (attributes : Attributes) (i : Nat) :
    List Node → Except EditFault (List Node) :=
  match d.action with
  | .insertInside =>
    modifyElement i fun tag own children => .element tag own (children ++ d.payload)
  | .insertBefore => splice i i d.payload
  | .insertAfter => splice (i + 1) (i + 1) d.payload
  | .replace => splice i (i + 1) d.payload
  | .remove => splice i (i + 1) []
  | .setAttributes =>
    modifyElement i fun tag own children => .element tag (own.merge attributes) children

/-- The tree with the element at `index` edited. -/
def editAt (d : Directive) (attributes : Attributes) (nodes : List Node) (index : Index) :
    Except EditFault (List Node) :=
  modifySiblings (d.editList attributes (index.getLastD 0)) nodes index

/-- Edits the elements at the indices one after the other, up to the first edit that cannot be made:
what comes of it, and the tree that is left. -/
def editEach (d : Directive) (attributes : Attributes) :
    List Index → List Node → Except EditFault Unit × List Node
  | [], nodes => (.ok (), nodes)
  | index :: rest, nodes =>
    match d.editAt attributes nodes index with
    | .ok nodes => d.editEach attributes rest nodes
    | .error fault => (.error fault, nodes)

/-- Applies a directive of the template `id` to a tree in place: what comes of it, and the tree that
is left. -/
def applyTo (id : String) (nodes : List Node) (d : Directive) :
    Except ResolutionError Unit × List Node :=
  match d.checkPayload with
  | .error fault => (.error (.invalidPayload id d.action fault), nodes)
  | .ok attributes =>
    match d.path.select nodes with
    | [] => (.error (.targetNotFound id d.path.source), nodes)
    | found =>
      if found.length > 1 && !d.multiple then
        (.error (.ambiguousTarget id d.path.source found.length), nodes)
      else
        match d.editEach attributes found.reverse nodes with
        | (.ok (), nodes) => (.ok (), nodes)
        | (.error _, nodes) => (.error (.targetNotFound id d.path.source), nodes)

/-- The tree after a directive of the template `id`. -/
def apply (id : String) (nodes : List Node) (d : Directive) :
    Except ResolutionError (List Node) :=
  match d.applyTo id nodes with
  | (.ok (), nodes) => .ok nodes
  | (.error e, _) => .error e

end Directive

/-- The tree after the directives of the template `id`, one after the other. -/
def applyAll (id : String) (nodes : List Node) (directives : List Directive) :
    Except ResolutionError (List Node) :=
  directives.foldlM (Directive.apply id) nodes

end MarkupTemplates
