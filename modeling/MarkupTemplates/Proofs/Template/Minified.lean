import MarkupTemplates.Proofs.Markup.Minified
import MarkupTemplates.Proofs.Template.Loading
import MarkupTemplates.Proofs.Text.Trimmed
import MarkupTemplates.Proofs.Tracks

/-!
# Templates of a minified source

Minifying a source comes to minifying the templates that it declares (`readTemplates_minify`), with
one exception: an include that holds nothing but blank text is refused because it has children, and
none are left of them in the minified source.
-/

namespace MarkupTemplates

open Markup (Node Located LocatedElement minified nodesOf nodesOf_minifiedAll)
open Markup.Located (minifiedAll minifiedAll_append minifiedAll_singleton)
open Text (Span)

/-- The directive with its payload minified. -/
def Directive.minified (d : Directive) : Directive :=
  { d with payload := Markup.minified d.payload }

/-- The body with its content or its payloads minified. -/
def Body.minified : Body → Body
  | .root content => .root (Markup.minified content)
  | .copy target directives => .copy target (directives.map Directive.minified)
  | .layer target priority directives =>
    .layer target priority (directives.map Directive.minified)

/-- The template with its content or its payloads minified. -/
def Template.minified (t : Template) : Template := { t with body := t.body.minified }

namespace Declaration

/-! ### Blank includes -/

mutual

/-- The places of the includes at or below a node that have children, but none when minified. -/
def blankIncludesAt : Located → List Span
  | .text _ _ => []
  | .element tag _ children span =>
    (if tag = includeTag ∧ !children.isEmpty ∧ (minifiedAll children).isEmpty then [span]
      else []) ++ blankIncludes children

/-- The places of the includes, at every depth, that have children, but none when minified. -/
def blankIncludes : List Located → List Span
  | [] => []
  | n :: ns => blankIncludesAt n ++ blankIncludes ns

end

/-- The error that one of the includes at `spans` has children. -/
def Fills (spans : List Span) (e : SourceError) : Prop :=
  ∃ span ∈ spans, e = DeclarationFault.filledInclude.at span

variable {spans : List Span}

/-- Nodes are checked one after the other, up to the first that fails. -/
theorem checkNodes_append {ms ns : List Located} :
    checkNodes (ms ++ ns) = (checkNodes ms >>= fun _ => checkNodes ns) := by
  induction ms with
  | nil => rfl
  | cons m ms ih =>
      rw [List.cons_append, checkNodes, checkNodes, ih]
      cases checkNode m with
      | ok _ => rfl
      | error e => rfl

theorem checkNodes_singleton {n : Located} : checkNodes [n] = checkNode n := by
  rw [checkNodes]
  cases checkNode n with
  | ok _ => rfl
  | error e => rfl

mutual

/-- The checks say the same of a minified node, but for blank includes. -/
theorem tracks_checkNode : ∀ n : Located, blankIncludesAt n ⊆ spans →
    Tracks (Fills spans) id (checkNode n) (checkNodes n.minified)
  | .text content span, _ => by
      rw [Located.minified]
      split
      · exact .ok ()
      · exact .ok ()
  | .element tag attributes children span, h => by
      rw [blankIncludesAt, List.append_subset] at h
      have ih := tracks_checkNodes children h.2
      rw [Located.minified, checkNodes_singleton, checkNode, checkNode]
      split
      · exact .error _
      · by_cases hfilled : tag = includeTag ∧ !children.isEmpty
        · rw [if_pos hfilled]
          by_cases hleft : (minifiedAll children).isEmpty
          · refine .excused ⟨span, h.1 ?_, rfl⟩
            rw [if_pos ⟨hfilled.1, hfilled.2, hleft⟩]
            exact List.mem_singleton_self span
          · rw [if_pos ⟨hfilled.1, by simpa using hleft⟩]
            exact .error _
        · have hempty : ¬ (tag = includeTag ∧ !(minifiedAll children).isEmpty) := by
            rintro ⟨htag, hleft⟩
            refine hfilled ⟨htag, ?_⟩
            cases children with
            | nil => exact hleft
            | cons n ns => rfl
          rw [if_neg hfilled, if_neg hempty]
          exact ih

/-- The checks say the same of minified nodes, but for blank includes. -/
theorem tracks_checkNodes : ∀ ns : List Located, blankIncludes ns ⊆ spans →
    Tracks (Fills spans) id (checkNodes ns) (checkNodes (minifiedAll ns))
  | [], _ => .ok ()
  | n :: ns, h => by
      rw [blankIncludes, List.append_subset] at h
      have hcons : checkNodes (n :: ns) = (checkNode n >>= fun _ => checkNodes ns) := by
        rw [← List.singleton_append, checkNodes_append, checkNodes_singleton]
      rw [hcons, minifiedAll, checkNodes_append]
      exact (tracks_checkNode n h.1).bind fun _ _ => tracks_checkNodes ns h.2

end

/-- Minified content passes or fails as the content does, but for blank includes. -/
theorem tracks_content {children : List Located} (h : blankIncludes children ⊆ spans) :
    Tracks (Fills spans) minified (content children) (content (minifiedAll children)) := by
  refine (tracks_checkNodes children h).bind fun _ _ => .of_eq ?_
  rw [nodesOf_minifiedAll]
  rfl

/-- The blank includes below an element of a list are blank includes of the list. -/
theorem hereditary_blankIncludes : Hereditary fun ns => blankIncludes ns ⊆ spans where
  tail h := by
    rw [blankIncludes, List.append_subset] at h
    exact h.2
  children h := by
    rw [blankIncludes, blankIncludesAt, List.append_subset, List.append_subset] at h
    exact h.1.2

/-! ### Elements -/

/-- Blank text does not count. -/
theorem elementsOnly_minified (place : String) : ∀ ns : List Located,
    elementsOnly place (minifiedAll ns) =
      (elementsOnly place ns).map (List.map LocatedElement.minified)
  | [] => rfl
  | .element tag attributes children span :: rest => by
      rw [minifiedAll, Located.minified, List.singleton_append, elementsOnly, elementsOnly,
        elementsOnly_minified place rest]
      cases elementsOnly place rest with
      | error e => rfl
      | ok es => rfl
  | .text content span :: rest => by
      rw [minifiedAll, Located.minified, elementsOnly]
      cases hblank : Text.isBlankText content with
      | true =>
          rw [if_pos (Text.trim_eq_empty_iff.mpr hblank), if_pos rfl, List.nil_append]
          exact elementsOnly_minified place rest
      | false =>
          rw [if_neg (by simp [Text.trim_eq_empty_iff, hblank]), List.singleton_append,
            elementsOnly, Text.isBlankText_trim, hblank]
          rfl

/-! ### Directives -/

/-- A minified element declares the minified directive, but for blank includes. -/
theorem tracks_directive {e : LocatedElement} (h : blankIncludes e.children ⊆ spans) :
    Tracks (Fills spans) Directive.minified (directive e) (directive e.minified) := by
  rw [directive_eq, directive_eq]
  refine .bind_same fun _ => .bind_same fun raw => .bind_same fun path => ?_
  refine .bind_same fun name => .bind_same fun action => .bind_same fun multiple => ?_
  exact (tracks_content h).bind fun payload _ => .ok _

/-! ### Templates -/

theorem tracks_root {e : LocatedElement} (h : blankIncludes e.children ⊆ spans)
    (id : Option String) (mode : Option Mode) (priority : Option Int) :
    Tracks (Fills spans) (fun declared => (declared.1, declared.2.minified))
      (root e id mode priority) (root e.minified id mode priority) := by
  refine .bind_same fun _ => .bind_same fun _ => ?_
  cases id with
  | none => exact .error _
  | some id => exact (tracks_content h).bind fun nodes _ => .ok _

theorem tracks_patch {e : LocatedElement} (h : blankIncludes e.children ⊆ spans)
    (id : Option String) (mode : Option Mode) (priority : Option Int) (target : String) :
    Tracks (Fills spans) (fun declared => (declared.1, declared.2.minified))
      (patch e id mode priority target) (patch e.minified id mode priority target) := by
  refine .bind_same fun declared => .bind_same fun _ => ?_
  refine (Tracks.of_eq (elementsOnly_minified _ e.children)).bind fun elements helements => ?_
  have hall := hereditary_blankIncludes.yields_elementsOnly _ h elements helements
  refine (Tracks.mapM fun e he => tracks_directive (hall e he)).bind fun ds _ => ?_
  cases declared.1 with
  | copy => exact .ok _
  | inPlace => exact .ok _

/-- Root or extension, a minified element declares it minified, but for blank includes. -/
theorem tracks_declare {e : LocatedElement} (h : blankIncludes e.children ⊆ spans)
    (mode : Option Mode) (priority : Option Int) :
    Tracks (Fills spans) (fun declared => (declared.1, declared.2.minified))
      (declare e mode priority) (declare e.minified mode priority) := by
  have hget : e.minified.attributes = e.attributes := rfl
  rw [declare, declare, hget]
  split
  · exact tracks_root h _ mode priority
  · exact .bind_same fun _ => tracks_patch h _ mode priority _

/-- A minified element declares the minified template, but for blank includes. -/
theorem tracks_template (name : String) {e : LocatedElement}
    (h : blankIncludes e.children ⊆ spans) :
    Tracks (Fills spans) Template.minified (template name e) (template name e.minified) := by
  -- the attributes and the place are the same, so both runs go the same way
  rw [template_eq, template_eq]
  refine .bind_same fun _ => .bind_same fun mode => .bind_same fun priority => ?_
  exact (tracks_declare h mode priority).bind fun _ _ => .ok _

/-! ### Sources -/

/-- The templates of a minified source are declared by the same elements, minified. -/
theorem declarations_minified (nodes : List Located) :
    declarations (minifiedAll nodes) =
      (declarations nodes).map (List.map LocatedElement.minified) := by
  rw [declarations, declarations, elementsOnly_minified]
  cases elementsOnly "outside of a template" nodes with
  | error e => rfl
  | ok outer =>
      rcases outer with _ | ⟨e, _ | ⟨_, _⟩⟩
      · rfl
      · change (if e.tag = templateTag then _ else if e.tag = templatesTag then _ else _) =
          Except.map _ (if e.tag = templateTag then _ else if e.tag = templatesTag then _ else _)
        split
        · rfl
        · split
          · rw [show e.minified.children = minifiedAll e.children from rfl, elementsOnly_minified]
            cases elementsOnly "between templates" e.children with
            | error e => rfl
            | ok elements =>
                have hfind : (elements.map LocatedElement.minified).find? (·.tag != templateTag) =
                    (elements.find? (·.tag != templateTag)).map LocatedElement.minified :=
                  List.find?_map
                simp only [Except.map, bind, Except.bind, hfind]
                cases elements.find? (·.tag != templateTag) with
                | some other => rfl
                | none => rfl
          · rfl
      · rfl

end Declaration

/-- One of the errors is that an include has children, and when minified it has none. -/
def RefusesBlankInclude (source : String) (errors : List SourceError) : Prop :=
  ∃ tree, Markup.readTree false source.toList = .ok tree ∧
    ∃ e ∈ errors, Declaration.Fills (Declaration.blankIncludes tree) e

/-- **A minified source declares the minified templates**, unless a blank include is refused. -/
theorem readTemplates_minify (name source : String) :
    Tracks (RefusesBlankInclude source) (List.map Template.minified)
      (readTemplates false name source) (readTemplates true name source) := by
  rw [readTemplates, readTemplates, Markup.readTree_minify]
  cases htree : Markup.readTree false source.toList with
  | error e => exact .error _
  | ok tree =>
      simp only [Except.map, Declaration.declarations_minified]
      cases helements : Declaration.declarations tree with
      | error e => exact .error _
      | ok elements =>
          have hall := Declaration.hereditary_blankIncludes.yields_declarations
            (List.Subset.refl (Declaration.blankIncludes tree)) elements helements
          refine (Declaration.tracks_collect fun e he =>
            Declaration.tracks_template name (hall e he)).mono ?_
          rintro es - ⟨e, he, hfills⟩
          exact ⟨tree, htree, e, he, hfills⟩

end MarkupTemplates
