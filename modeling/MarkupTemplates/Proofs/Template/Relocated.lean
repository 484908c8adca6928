import MarkupTemplates.Proofs.Markup.Relocated
import MarkupTemplates.Proofs.Template.Loading

/-!
# Templates at another place

The places of a source end up in the templates it declares and decide nothing.  If the tree of one
source is that of another one with its spans relocated, it declares the same templates with their
spans relocated (`readTemplates_of_relocate`).
-/

namespace MarkupTemplates

open Markup (Located LocatedElement nodesOf nodesOf_relocateAll)
open Markup.Located (relocateAll)
open Text (Relocation Span)

/-- The directive at another place. -/
def Directive.relocate (r : Relocation) (d : Directive) : Directive :=
  { d with span := d.span.relocate r }

/-- The body with its directives at other places. -/
def Body.relocate (r : Relocation) : Body → Body
  | .root content => .root content
  | .copy target directives => .copy target (directives.map (·.relocate r))
  | .layer target priority directives => .layer target priority (directives.map (·.relocate r))

/-- The template at another place of its source. -/
def Template.relocate (r : Relocation) (t : Template) : Template :=
  { t with body := t.body.relocate r, origin := ⟨t.origin.source, t.origin.span.relocate r⟩ }

namespace Declaration

variable (r : Relocation)

/-! ### Elements -/

/-- What is let pass at one place is let pass at every other. -/
theorem refuse_relocate (condition : Bool) (span : Span) (fault : DeclarationFault) :
    Carries id (refuse condition span fault)
      (refuse condition (span.relocate r) fault) := by
  cases condition with
  | true => exact .excused trivial
  | false => exact .ok ()

/-- What is demanded with success at one place is so at every other, with the same value. -/
theorem demand_relocate {α : Type} (span : Span) (fault : DeclarationFault) (a : Option α) :
    Carries id (demand span fault a) (demand (span.relocate r) fault a) := by
  cases a with
  | none => exact .excused trivial
  | some a => exact .ok a

theorem demand_some_relocate {α : Type} (span : Span) (fault : DeclarationFault) (a : Option α) :
    Carries id (some <$> demand span fault a)
      (some <$> demand (span.relocate r) fault a) :=
  (demand_relocate r span fault a).map fun _ => rfl

/-- The elements of a list that is moved are the elements of the list, moved. -/
theorem elementsOnly_relocate (place : String) : ∀ ns : List Located,
    Carries (List.map (LocatedElement.relocate r)) (elementsOnly place ns)
      (elementsOnly place (relocateAll r ns))
  | [] => .ok []
  | .element tag attributes children span :: rest => by
      rw [relocateAll, Located.relocate, elementsOnly, elementsOnly]
      exact (elementsOnly_relocate place rest).map fun _ => rfl
  | .text content span :: rest => by
      rw [relocateAll, Located.relocate, elementsOnly, elementsOnly]
      split
      · exact elementsOnly_relocate place rest
      · exact .excused trivial

/-- Whether includes are sound does not depend on their places. -/
theorem content_relocate (children : List Located) :
    Carries id (content children) (content (relocateAll r children)) := by
  cases hcheck : checkNodes children with
  | error e =>
      rw [content, hcheck]
      exact .excused trivial
  | ok _ =>
      have hmoved : checkNodes (relocateAll r children) = .ok () := by
        rw [checkNodes_eq_ok_iff, nodesOf_relocateAll, ← checkNodes_eq_ok_iff, hcheck]
      rw [content, content, hcheck, hmoved, nodesOf_relocateAll]
      exact .ok (nodesOf children)

/-! ### Directives -/

/-- The path of a directive does not depend on where the directive stands. -/
theorem directivePath_relocate (span : Span) (raw : String) :
    Carries id (directivePath span raw) (directivePath (span.relocate r) raw) := by
  rw [directivePath, directivePath]
  split
  · exact .ok _
  · exact .excused trivial

/-- An attribute that may be missing is the same elsewhere, if its text is read alike. -/
theorem optional_relocate {α : Type} {attributes : Markup.Attributes} {key : String} {default : α}
    {read read' : String → Except SourceError α} (h : ∀ s, Carries id (read s) (read' s)) :
    Carries id (optional attributes key default read) (optional attributes key default read') := by
  rw [optional, optional]
  split
  · exact .ok default
  · exact h _

/-- An element declares the same directive elsewhere, with its span moved. -/
theorem directive_relocate (e : LocatedElement) :
    Carries (Directive.relocate r) (directive e) (directive (e.relocate r)) := by
  rw [directive_eq, directive_eq]
  refine (refuse_relocate r _ e.span _).bind fun _ _ => ?_
  refine (demand_relocate r e.span _ _).bind fun raw _ => ?_
  refine (directivePath_relocate r e.span raw).bind fun path _ => ?_
  refine (demand_relocate r e.span _ _).bind fun name _ => ?_
  refine (demand_relocate r e.span _ _).bind fun action _ => ?_
  refine (optional_relocate fun flag => demand_relocate r e.span _ _).bind fun multiple _ => ?_
  exact (content_relocate r e.children).bind fun payload _ => .ok _

/-! ### Templates -/

theorem root_relocate (e : LocatedElement) (id : Option String) (mode : Option Mode)
    (priority : Option Int) :
    Carries (fun declared => (declared.1, declared.2.relocate r))
      (root e id mode priority) (root (e.relocate r) id mode priority) := by
  refine (refuse_relocate r _ e.span _).bind fun _ _ => ?_
  refine (refuse_relocate r _ e.span _).bind fun _ _ => ?_
  cases id with
  | none => exact .excused trivial
  | some id => exact (content_relocate r e.children).bind fun nodes _ => .ok (id, Body.root nodes)

/-- An element declares the same extension elsewhere, with the spans of its directives moved. -/
theorem patch_relocate (e : LocatedElement) (id : Option String) (mode : Option Mode)
    (priority : Option Int) (target : String) :
    Carries (fun declared => (declared.1, declared.2.relocate r))
      (patch e id mode priority target) (patch (e.relocate r) id mode priority target) := by
  rw [patch, patch]
  cases extension id target mode with
  | error fault => exact .excused trivial
  | ok declared =>
      obtain ⟨mode, id⟩ := declared
      refine (refuse_relocate r _ e.span _).bind fun _ _ => ?_
      refine (elementsOnly_relocate r _ e.children).bind fun elements _ => ?_
      refine (Tracks.mapM fun e _ => directive_relocate r e).bind fun ds _ => ?_
      cases mode with
      | copy => exact .ok (id, Body.copy target ds)
      | inPlace => exact .ok (id, Body.layer target (priority.getD 0) ds)

theorem checkId_relocate (e : LocatedElement) : Carries id (checkId e) (checkId (e.relocate r)) := by
  have hget : (e.relocate r).attributes = e.attributes := rfl
  rw [checkId, checkId, hget]
  split
  · exact .excused trivial
  · exact .ok ()

/-- What an element declares, a root or an extension, is the same elsewhere but for the spans of
directives. -/
theorem declare_relocate (e : LocatedElement) (mode : Option Mode) (priority : Option Int) :
    Carries (fun declared => (declared.1, declared.2.relocate r))
      (declare e mode priority) (declare (e.relocate r) mode priority) := by
  have hget : (e.relocate r).attributes = e.attributes := rfl
  rw [declare, declare, hget]
  split
  · exact root_relocate r e _ mode priority
  · exact (refuse_relocate r _ e.span _).bind fun _ _ => patch_relocate r e _ mode priority _

/-- An element declares the same template elsewhere, with its span and those of its directives
moved. -/
theorem template_relocate (name : String) (e : LocatedElement) :
    Carries (Template.relocate r) (template name e) (template name (e.relocate r)) := by
  -- the attributes are the same, so both runs go the same way
  rw [template_eq, template_eq]
  refine (checkId_relocate r e).bind fun _ _ => ?_
  refine (optional_relocate fun s => demand_some_relocate r e.span _ _).bind fun mode _ => ?_
  refine (optional_relocate fun s => demand_some_relocate r e.span _ _).bind fun priority _ => ?_
  exact (declare_relocate r e mode priority).bind fun _ _ => .ok _

/-! ### Sources -/

/-- The templates of a source that is moved are declared by the same elements, moved. -/
theorem declarations_relocate (nodes : List Located) :
    Carries (List.map (LocatedElement.relocate r)) (declarations nodes)
      (declarations (relocateAll r nodes)) := by
  cases hes : declarations nodes with
  | error e => exact .excused trivial
  | ok es =>
      obtain ⟨outer, houter, hdeclares⟩ := declarations_eq_ok_iff.mp hes
      have hmoved := (elementsOnly_relocate r _ nodes).of_ok houter
      refine .of_eq (declarations_eq_ok_iff.mpr ⟨_, hmoved, ?_⟩)
      cases hdeclares with
      | nothing => exact .nothing
      | template htag => exact .template htag
      | @templates e es htag hinner hall =>
          exact .templates htag ((elementsOnly_relocate r _ e.children).of_ok hinner)
            (List.forall_mem_map.mpr hall)

end Declaration

/-- **The same tree at other places declares the same templates at other places.** -/
theorem readTemplates_of_relocate {minify : Bool} {name source source' : String}
    {tree : List Located} {r : Relocation} {ts : List Template}
    (htree : Markup.readTree minify source.toList = .ok tree)
    (htree' : Markup.readTree minify source'.toList = .ok (relocateAll r tree))
    (hts : readTemplates minify name source = .ok ts) :
    readTemplates minify name source' = .ok (ts.map (Template.relocate r)) := by
  obtain ⟨tree₁, elements, htree₁, helements, hcollect⟩ := readTemplates_eq_ok_iff.mp hts
  obtain rfl := Except.ok.inj (htree.symm.trans htree₁)
  refine readTemplates_eq_ok_iff.mpr ⟨_, _, htree',
    (Declaration.declarations_relocate r tree).of_ok helements, ?_⟩
  have htemplates := Declaration.tracks_collect fun e (_ : e ∈ elements) =>
    Declaration.template_relocate r name e
  exact htemplates.of_ok hcollect

end MarkupTemplates
