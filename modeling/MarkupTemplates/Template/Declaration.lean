import MarkupTemplates.Markup.Nesting
import MarkupTemplates.Path.Reading
import MarkupTemplates.Template.Include
import MarkupTemplates.Template.SourceError
import MarkupTemplates.Text.Integer

/-!
# Declarations of templates

A source declares templates in markup: one `template` element, or a `templates` element with any
number of them.  A template without `extend` is a root, and its children are its content.  A
template that extends another is a copy under its own id, or a layer if it has no id of its own; its
children are `patch` elements, one for each directive.

`readTemplates` answers the templates of a source, or all that is wrong with it: one fault of the
markup or of the outer elements, or else the first fault of each faulty template.
-/

namespace MarkupTemplates

open Markup (Node Attributes Located LocatedElement nodesOf)
open Text (Span)

/-- The tag of a list of templates. -/
def templatesTag : String := "templates"

/-- The tag of a template. -/
def templateTag : String := "template"

/-- The tag of a directive. -/
def patchTag : String := "patch"

/-- Why an element declares nothing. -/
inductive DeclarationFault where
  /-- Text stands where only elements may. -/
  | strayText (place : String)
  /-- There are several outermost elements. -/
  | severalRoots
  /-- The outermost element is neither a template nor a list of templates. -/
  | notTemplates (tag : String)
  /-- An element of a list of templates is no template. -/
  | notTemplate (tag : String)
  /-- The mode is no mode. -/
  | unknownMode (name : String)
  /-- The priority is no integer. -/
  | notInteger (priority : String)
  /-- The extended template has a blank name. -/
  | blankTarget
  /-- There is a mode, and no template is extended. -/
  | modeOfRoot
  /-- There is a priority, and the template is no layer. -/
  | priorityOfNoLayer
  /-- A copy has no id of its own. -/
  | copyOfItself
  /-- A layer has an id of its own. -/
  | layerWithId (id target : String)
  /-- An element is no directive. -/
  | notDirective (tag : String)
  /-- A directive has no path. -/
  | missingPath
  /-- A directive has no action. -/
  | missingAction
  /-- The action is no action. -/
  | unknownAction (name : String)
  /-- The flag for several elements is neither true nor false. -/
  | notFlag (flag : String)
  /-- An include names no template. -/
  | namelessInclude
  /-- An include has children. -/
  | filledInclude
deriving DecidableEq, Repr

/-- The fault in words. -/
def DeclarationFault.message : DeclarationFault → String
  | .strayText place => "text is not allowed " ++ place
  | .severalRoots => "a source must have a single root element"
  | .notTemplates tag => "only <template> or <templates> can be loaded, not <" ++ tag ++ ">"
  | .notTemplate tag => "only <template> can be loaded, not <" ++ tag ++ ">"
  | .unknownMode name => Mode.unknownMessage name
  | .notInteger priority => "priority '" ++ priority ++ "' is not an integer"
  | .blankTarget => "extend must name a template"
  | .modeOfRoot => "mode requires extend"
  | .priorityOfNoLayer => "priority only applies to in-place patches"
  | .copyOfItself => "copy mode requires an id distinct from extend"
  | .layerWithId id target =>
    "in-place mode cannot declare id '" ++ id ++ "' distinct from extend '" ++ target ++ "'"
  | .notDirective tag => "expected <" ++ patchTag ++ ">, found <" ++ tag ++ ">"
  | .missingPath => "patch directive requires a path"
  | .missingAction => "patch directive requires an action"
  | .unknownAction name => Action.unknownMessage name
  | .notFlag flag => "mult '" ++ flag ++ "' is not a boolean"
  | .namelessInclude => "include requires a template attribute"
  | .filledInclude => "include cannot have content"

/-- The declaration fault at a place. -/
def DeclarationFault.at (fault : DeclarationFault) (span : Span) : SourceError :=
  .declaration span fault.message

namespace Declaration

/-- The value, or a fault at a place. -/
def demand {α : Type} (span : Span) (fault : DeclarationFault) : Option α → Except SourceError α
  | some a => .ok a
  | none => .error (fault.at span)

/-- Fails with a fault at a place if a condition holds. -/
def refuse (condition : Bool) (span : Span) (fault : DeclarationFault) : Except SourceError Unit :=
  if condition then .error (fault.at span) else .ok ()

/-- The elements of a list of nodes that may hold blank text besides, and no other. -/
def elementsOnly (place : String) : List Located → Except SourceError (List LocatedElement)
  | [] => .ok []
  | .element tag attributes children span :: rest =>
    (elementsOnly place rest).map (⟨tag, attributes, children, span⟩ :: ·)
  | .text content span :: rest =>
    if Text.isBlankText content then elementsOnly place rest
    else .error ((DeclarationFault.strayText place).at span)

mutual

/-- The first include, in document order, that names no template or has children. -/
def checkNode : Located → Except SourceError Unit
  | .text _ _ => .ok ()
  | .element tag attributes children span =>
    if tag = includeTag ∧ (attributes.get? includeKey).isNone then
      .error (DeclarationFault.namelessInclude.at span)
    else if tag = includeTag ∧ !children.isEmpty then
      .error (DeclarationFault.filledInclude.at span)
    else checkNodes children

/-- The first include, in document order, that names no template or has children. -/
def checkNodes : List Located → Except SourceError Unit
  | [] => .ok ()
  | n :: ns =>
    match checkNode n with
    | .ok () => checkNodes ns
    | .error e => .error e

end

/-- The nodes of a content, if its includes are sound. -/
def content (children : List Located) : Except SourceError (List Node) := do
  checkNodes children
  return nodesOf children

/-! ### Directives -/

/-- The truth value a flag is written for. -/
def flag? (s : String) : Option Bool :=
  let s := Text.trim s
  if ["true", "True", "1"].contains s then some true
  else if ["false", "False", "0"].contains s then some false
  else none

/-- The path of a directive. -/
def directivePath (span : Span) (raw : String) : Except SourceError Path :=
  match Path.read raw with
  | .ok path => .ok path
  | .error fault => .error (.directivePath span raw (SourceError.ofPathFault fault).message)

/-- The directive that an element declares. -/
def directive (e : LocatedElement) : Except SourceError Directive := do
  refuse (e.tag != patchTag) e.span (.notDirective e.tag)
  let raw ← demand e.span .missingPath (e.attributes.get? "path")
  let path ← directivePath e.span raw
  let name ← demand e.span .missingAction (e.attributes.get? "action")
  let action ← demand e.span (.unknownAction name) (Action.ofName? name)
  let multiple ←
    match e.attributes.get? "mult" with
    | none => pure false
    | some flag => demand e.span (.notFlag flag) (flag? flag)
  let payload ← content e.children
  return { path, action, payload, multiple, span := e.span }

/-! ### Templates -/

/-- The mode of a template that extends `target`, and the id it bears. -/
def extension (id : Option String) (target : String) (declared : Option Mode) :
    Except DeclarationFault (Mode × String) :=
  match id.filter (· ≠ target), declared with
  | none, some .copy => .error .copyOfItself
  | none, _ => .ok (.inPlace, target)
  | some id, some .inPlace => .error (.layerWithId id target)
  | some id, _ => .ok (.copy, id)

/-- The root that an element declares. -/
def root (e : LocatedElement) (id : Option String) (mode : Option Mode) (priority : Option Int) :
    Except SourceError (String × Body) := do
  refuse mode.isSome e.span .modeOfRoot
  refuse priority.isSome e.span .priorityOfNoLayer
  match id with
  | none => .error (.missingId e.span)
  | some id => return (id, .root (← content e.children))

/-- The copy or layer of `target` that an element declares. -/
def patch (e : LocatedElement) (id : Option String) (mode : Option Mode) (priority : Option Int)
    (target : String) : Except SourceError (String × Body) := do
  let (mode, id) ← (extension id target mode).mapError (·.at e.span)
  refuse (mode == .copy && priority.isSome) e.span .priorityOfNoLayer
  let elements ← elementsOnly "between patch directives" e.children
  let directives ← elements.mapM directive
  match mode with
  | .copy => return (id, .copy target directives)
  | .inPlace => return (id, .layer target (priority.getD 0) directives)

/-- The template that an element of the source `name` declares. -/
def template (name : String) (e : LocatedElement) : Except SourceError Template := do
  let id := e.attributes.get? "id"
  if id.any Text.isBlankText then throw (.missingId e.span)
  let mode ←
    match e.attributes.get? "mode" with
    | none => pure none
    | some s => some <$> demand e.span (.unknownMode s) (Mode.ofName? s)
  let priority ←
    match e.attributes.get? "priority" with
    | none => pure none
    | some s => some <$> demand e.span (.notInteger s) (Text.readInt32? (Text.trimList s.toList))
  let (id, body) ←
    match e.attributes.get? "extend" with
    | none => root e id mode priority
    | some target => do
      refuse (Text.isBlankText target) e.span .blankTarget
      patch e id mode priority target
  return { id, body, origin := ⟨name, e.span⟩ }

/-! ### Sources -/

/-- The elements of a source that declare templates. -/
def declarations (nodes : List Located) : Except SourceError (List LocatedElement) := do
  match ← elementsOnly "outside of a template" nodes with
  | [] => return []
  | _ :: second :: _ => .error (DeclarationFault.severalRoots.at second.span)
  | [e] =>
    if e.tag = templateTag then return [e]
    else if e.tag = templatesTag then
      let elements ← elementsOnly "between templates" e.children
      match elements.find? (·.tag != templateTag) with
      | some other => .error ((DeclarationFault.notTemplate other.tag).at other.span)
      | none => return elements
    else .error ((DeclarationFault.notTemplates e.tag).at e.span)

/-- What is said of markup that is not well formed. -/
def ofNestingError (e : Markup.NestingError) : SourceError :=
  match e.fault with
  | .attribute (.repeated key) => .repeatedAttribute e.span key
  | fault => .markup e.span fault.message

/-- The values of a list of results, or all its errors if there are any. -/
def collect {ε α : Type} : List (Except ε α) → Except (List ε) (List α)
  | [] => .ok []
  | .ok a :: rest => (collect rest).map (a :: ·)
  | .error e :: rest =>
    match collect rest with
    | .ok _ => .error [e]
    | .error es => .error (e :: es)

end Declaration

/-- The templates that a source declares under a name, or all that is wrong with it. -/
def readTemplates (minify : Bool) (name source : String) :
    Except (List SourceError) (List Template) :=
  match Markup.readTree minify source.toList with
  | .error e => .error [Declaration.ofNestingError e]
  | .ok nodes =>
    match Declaration.declarations nodes with
    | .error e => .error [e]
    | .ok elements => Declaration.collect (elements.map (Declaration.template name))

end MarkupTemplates
