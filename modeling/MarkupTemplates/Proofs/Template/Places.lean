import MarkupTemplates.Proofs.Markup.Marked
import MarkupTemplates.Proofs.Markup.Seams
import MarkupTemplates.Proofs.Template.WellFormed

/-!
# Where templates stand

The places in templates and errors are those of the tree that a source is read as.  The elements
that declare templates, and those that declare the directives of a template, are nodes of one list
of the tree in their order (`sublist_elementsOnly`), so that they stand one behind the other.  What
is wrong with a declaration is said of a node of the tree (`blames_template` and its kin), so that
something is marked (`marks_of_readTemplates`).

`readTemplates_placed` says both of a whole source: what the templates of an accepted source are
written as, and that an error of a refused one marks a part of its text.
-/

namespace MarkupTemplates

open Markup (Piece Located LocatedElement Laid ElementOf Covers)
open Text (Span Cuts Marks byteLength)

/-- The element as a node. -/
def Markup.LocatedElement.located (e : LocatedElement) : Located :=
  .element e.tag e.attributes e.children e.span

namespace Declaration

variable {ps : List Piece} {first last : Nat}

/-! ### Elements of a list -/

/-- Elements stand in a list in their order. -/
theorem sublist_elementsOnly {place : String} : ∀ {ns : List Located} {es : List LocatedElement},
    elementsOnly place ns = .ok es → (es.map LocatedElement.located).Sublist ns
  | [], es, h => by cases h; exact .slnil
  | .element tag attributes children span :: rest, es, h => by
      rw [elementsOnly] at h
      cases hrest : elementsOnly place rest with
      | error e => rw [hrest] at h; cases h
      | ok more =>
          rw [hrest] at h
          cases h
          exact .cons_cons _ (sublist_elementsOnly hrest)
  | .text content span :: rest, es, h => by
      rw [elementsOnly] at h
      split at h
      · exact .cons _ (sublist_elementsOnly h)
      · cases h

/-- The elements that declare templates are nodes of one list: the tree, or the children of its
single element. -/
theorem sublist_declarations {nodes : List Located} {es : List LocatedElement}
    (h : declarations nodes = .ok es) :
    (∀ e ∈ es, e.tag = templateTag) ∧ ((es.map LocatedElement.located).Sublist nodes ∨
      ∃ e : LocatedElement, e.located ∈ nodes ∧
        (es.map LocatedElement.located).Sublist e.children) := by
  obtain ⟨outer, houter, hdeclares⟩ := declarations_eq_ok_iff.mp h
  have hsublist := sublist_elementsOnly houter
  cases hdeclares with
  | nothing => exact ⟨nofun, .inl (List.nil_sublist _)⟩
  | template htag => exact ⟨List.forall_mem_singleton.mpr htag, .inl hsublist⟩
  | @templates e es htag hinner hall =>
      have hmem : e.located ∈ nodes := hsublist.subset List.mem_cons_self
      exact ⟨hall, .inr ⟨e, hmem, sublist_elementsOnly hinner⟩⟩

/-! ### Templates and directives -/

theorem isVoid_templateTag : Markup.isVoid templateTag = false := by decide +kernel

theorem isVoid_patchTag : Markup.isVoid patchTag = false := by decide +kernel

/-- A directive has the span of its element, which is a patch element. -/
theorem yields_directive_span (e : LocatedElement) :
    Yields (directive e) fun d => d.span = e.span ∧ e.tag = patchTag := by
  have htag : Yields (refuse (e.tag != patchTag) e.span (.notDirective e.tag))
      fun _ => e.tag = patchTag :=
    fun _ hr => by simpa using yields_refuse _ _ _ _ hr
  rw [directive_eq]
  refine htag.bind fun _ hpatch => (Yields.any _).bind fun raw _ => ?_
  refine (Yields.any _).bind fun path _ => (Yields.any _).bind fun name _ => ?_
  refine (Yields.any _).bind fun action _ => (Yields.any _).bind fun multiple _ => ?_
  exact (Yields.any _).bind fun payload _ => .ok ⟨rfl, hpatch⟩

/-- The directives stand where elements among the children of an element stand. -/
def StandIn (e : LocatedElement) (ds : List Directive) : Prop :=
  ∃ es : List LocatedElement, (es.map LocatedElement.located).Sublist e.children ∧
    (∀ d ∈ es, d.tag = patchTag) ∧ ds.map (·.span) = es.map (·.span)

theorem standIn_nil (e : LocatedElement) : StandIn e [] :=
  ⟨[], List.nil_sublist _, nofun, rfl⟩

/-- Directives stand where their elements stand, in the same order. -/
theorem spans_of_mapM_directive {es : List LocatedElement} {ds : List Directive}
    (h : es.mapM directive = .ok ds) :
    (∀ e ∈ es, e.tag = patchTag) ∧ ds.map (·.span) = es.map (·.span) := by
  induction es generalizing ds with
  | nil => cases h; exact ⟨nofun, rfl⟩
  | cons e es ih =>
      rw [List.mapM_cons] at h
      cases hd : directive e with
      | error e' => rw [hd] at h; cases h
      | ok d =>
          rw [hd] at h
          cases hrest : es.mapM directive with
          | error e' => simp only [hrest, bind, Except.bind] at h; cases h
          | ok rest =>
              simp only [hrest, bind, Except.bind] at h
              cases h
              obtain ⟨htags, hspans⟩ := ih hrest
              obtain ⟨hspan, htag⟩ := yields_directive_span e d hd
              exact ⟨List.forall_mem_cons.mpr ⟨htag, htags⟩, by simp [hspan, hspans]⟩

/-- A root has no directives that could stand elsewhere. -/
theorem yields_root_standIn (e : LocatedElement) (id : Option String) (mode : Option Mode)
    (priority : Option Int) :
    Yields (root e id mode priority) fun declared =>
      StandIn e (Template.directives ⟨declared.1, declared.2, .inline⟩) := by
  refine (Yields.any _).bind fun _ _ => (Yields.any _).bind fun _ _ => ?_
  cases id with
  | none => exact .error _
  | some id => exact (Yields.any _).bind fun nodes _ => .ok (standIn_nil e)

/-- The directives of an extension stand in its element. -/
theorem yields_patch_standIn (e : LocatedElement) (id : Option String) (mode : Option Mode)
    (priority : Option Int) (target : String) :
    Yields (patch e id mode priority target) fun declared =>
      StandIn e (Template.directives ⟨declared.1, declared.2, .inline⟩) := by
  refine (Yields.any _).bind fun declared _ => (Yields.any _).bind fun _ _ => ?_
  have helements : Yields (elementsOnly "between patch directives" e.children) fun es =>
      (es.map LocatedElement.located).Sublist e.children := fun _ => sublist_elementsOnly
  refine helements.bind fun es hes => ?_
  have hdirectives : Yields (es.mapM directive) (StandIn e) :=
    fun ds hds => ⟨es, hes, spans_of_mapM_directive hds⟩
  refine hdirectives.bind fun ds hds => ?_
  cases declared.1 with
  | copy => exact .ok hds
  | inPlace => exact .ok hds

/-- Root or extension, the directives of what is declared stand in its element. -/
theorem yields_declare_standIn (e : LocatedElement) (mode : Option Mode) (priority : Option Int) :
    Yields (declare e mode priority) fun declared =>
      StandIn e (Template.directives ⟨declared.1, declared.2, .inline⟩) := by
  rw [declare]
  split
  · exact yields_root_standIn e _ mode priority
  · exact (Yields.any _).bind fun _ _ => yields_patch_standIn e _ mode priority _

/-- A template stands where its element stands, and its directives stand in it. -/
theorem yields_template_standIn (name : String) (e : LocatedElement) :
    Yields (template name e) fun t => t.origin.span = e.span ∧ StandIn e t.directives := by
  rw [template_eq]
  refine (Yields.any _).bind fun _ _ => (Yields.any _).bind fun mode _ => ?_
  refine (Yields.any _).bind fun priority _ => ?_
  exact (yields_declare_standIn e mode priority).bind fun _ hstand => .ok ⟨rfl, hstand⟩

/-- The templates of a source stand where their elements stand. -/
theorem spans_of_collect {name : String} {es : List LocatedElement} {ts : List Template}
    (h : collect (es.map (template name)) = .ok ts) :
    ts.map (·.origin.span) = es.map (·.span) ∧ ∀ t ∈ ts, ∃ e ∈ es, template name e = .ok t := by
  have hdeclared := forall₂_of_collect h
  clear h
  induction hdeclared with
  | nil => exact ⟨rfl, nofun⟩
  | @cons e t es ts ht _ ih =>
      obtain ⟨hspans, hmem⟩ := ih
      obtain ⟨hspan, -⟩ := yields_template_standIn name e t ht
      refine ⟨by simp [hspan, hspans], List.forall_mem_cons.mpr ⟨⟨e, List.mem_cons_self, ht⟩, ?_⟩⟩
      intro t' ht'
      obtain ⟨e', he', heq⟩ := hmem t' ht'
      exact ⟨e', List.mem_cons_of_mem e he', heq⟩

/-! ### What is wrong with a declaration -/

/-- Something is marked in the text of the pieces. -/
def MarkedIn (ps : List Piece) (e : SourceError) : Prop := Marks (ps.flatMap Piece.source) e.span

/-- An error that blames a node marks a part of the text. -/
theorem markedIn_of_stands {n : Located} (h : n.Stands ps) {e : SourceError}
    (he : e.span = n.span) : MarkedIn ps e := by
  obtain ⟨part, hne, hcovers⟩ := h.covers
  have hcuts := hcovers.cuts []
  rw [List.append_nil] at hcuts
  refine ⟨_, fun hnil => ?_, he ▸ hcuts⟩
  obtain ⟨p, rest, rfl⟩ := List.exists_cons_of_ne_nil hne
  rw [List.flatMap_cons, List.append_eq_nil_iff] at hnil
  exact p.source_ne_nil hnil.1

/-- A text among elements is blamed where it stands. -/
theorem blames_elementsOnly (place : String) : ∀ {ns : List Located},
    (∀ n ∈ ns, n.Stands ps) → Blames (elementsOnly place ns) (MarkedIn ps)
  | [], _ => .ok []
  | .element tag attributes children span :: rest, h => by
      rw [elementsOnly]
      exact (blames_elementsOnly place fun n hn => h n (List.mem_cons_of_mem _ hn)).map
  | .text content span :: rest, h => by
      obtain ⟨htext, hrest⟩ := List.forall_mem_cons.mp h
      rw [elementsOnly]
      split
      · exact blames_elementsOnly place hrest
      · exact .error (markedIn_of_stands htext rfl)

mutual

/-- A node that fails a check is blamed where it, or a node in it, stands. -/
theorem blames_checkNode : ∀ {n : Located}, n.Stands ps → Blames (checkNode n) (MarkedIn ps)
  | .text content span, _ => by rw [checkNode]; exact .ok ()
  | .element tag attributes children span, h => by
      obtain ⟨-, hchildren⟩ := Located.stands_element.mp h
      rw [checkNode]
      split
      · exact .error (markedIn_of_stands h rfl)
      · split
        · exact .error (markedIn_of_stands h rfl)
        · exact blames_checkNodes hchildren

/-- Nodes that fail a check are blamed where one of them, or a node in them, stands. -/
theorem blames_checkNodes : ∀ {ns : List Located} {first last : Nat}, Laid ps first last ns →
    Blames (checkNodes ns) (MarkedIn ps)
  | [], _, _, _ => by rw [checkNodes]; exact .ok ()
  | n :: ns, _, _, h => by
      obtain ⟨hn, -, hns⟩ := Markup.laid_cons.mp h
      rw [checkNodes]
      cases hcheck : checkNode n with
      | ok _ => exact blames_checkNodes hns
      | error e => exact .error (blames_checkNode hn e hcheck)

end

theorem blames_optional {α : Type} {attributes : Markup.Attributes} {key : String} {default : α}
    {read : String → Except SourceError α} {P : SourceError → Prop} (h : ∀ s, Blames (read s) P) :
    Blames (optional attributes key default read) P := by
  rw [optional]
  split
  · exact .ok default
  · exact h _

variable {e : LocatedElement} (h : e.located.Stands ps)

include h

theorem laid_children : Laid ps e.span.start e.span.stop e.children :=
  (Located.stands_element.mp h).2

theorem blames_refuse (condition : Bool) (fault : DeclarationFault) :
    Blames (refuse condition e.span fault) (MarkedIn ps) := by
  rw [refuse]
  split
  · exact .error (markedIn_of_stands h rfl)
  · exact .ok ()

/-- What is missing in an element is blamed on the element. -/
theorem blames_demand {α : Type} (fault : DeclarationFault) (a : Option α) :
    Blames (demand e.span fault a) (MarkedIn ps) := by
  cases a with
  | none => exact .error (markedIn_of_stands h rfl)
  | some a => exact .ok a

theorem blames_directivePath (raw : String) :
    Blames (directivePath e.span raw) (MarkedIn ps) := by
  rw [directivePath]
  split
  · exact .ok _
  · exact .error (markedIn_of_stands h rfl)

theorem blames_content : Blames (content e.children) (MarkedIn ps) :=
  (blames_checkNodes (laid_children h)).bind fun _ _ => .ok _

/-- What is wrong with a directive is blamed on its element or on a node of its payload. -/
theorem blames_directive : Blames (directive e) (MarkedIn ps) := by
  rw [directive_eq]
  refine (blames_refuse h _ _).bind fun _ _ => (blames_demand h _ _).bind fun raw _ => ?_
  refine (blames_directivePath h raw).bind fun path _ => (blames_demand h _ _).bind fun name _ => ?_
  refine (blames_demand h _ _).bind fun action _ => ?_
  refine (blames_optional fun flag => blames_demand h _ _).bind fun multiple _ => ?_
  exact (blames_content h).bind fun payload _ => .ok _

/-- What is wrong with a root is blamed on its element or on a node of its content. -/
theorem blames_root (id : Option String) (mode : Option Mode) (priority : Option Int) :
    Blames (root e id mode priority) (MarkedIn ps) := by
  refine (blames_refuse h _ _).bind fun _ _ => (blames_refuse h _ _).bind fun _ _ => ?_
  cases id with
  | none => exact .error (markedIn_of_stands h rfl)
  | some id => exact (blames_content h).bind fun nodes _ => .ok _

/-- What is wrong with an extension is blamed on its element or on something in it. -/
theorem blames_patch (id : Option String) (mode : Option Mode) (priority : Option Int)
    (target : String) : Blames (patch e id mode priority target) (MarkedIn ps) := by
  have hextension : Blames ((extension id target mode).mapError (·.at e.span)) (MarkedIn ps) := by
    cases extension id target mode with
    | error fault => exact .error (markedIn_of_stands h rfl)
    | ok declared => exact .ok declared
  refine hextension.bind fun declared _ => (blames_refuse h _ _).bind fun _ _ => ?_
  have hstand : ∀ n ∈ e.children, n.Stands ps := fun n hn => ((laid_children h).of_mem n hn).1
  refine (blames_elementsOnly _ hstand).bind fun elements helements => ?_
  have hdirectives : Blames (elements.mapM directive) (MarkedIn ps) := by
    refine .mapM fun d hd => blames_directive (hstand _ ?_)
    exact (sublist_elementsOnly helements).subset (List.mem_map_of_mem hd)
  refine hdirectives.bind fun ds _ => ?_
  cases declared.1 with
  | copy => exact .ok _
  | inPlace => exact .ok _

theorem blames_checkId : Blames (checkId e) (MarkedIn ps) := by
  rw [checkId]
  split
  · exact .error (markedIn_of_stands h rfl)
  · exact .ok ()

/-- Root or extension, what is wrong with it is blamed on its element or on something in it. -/
theorem blames_declare (mode : Option Mode) (priority : Option Int) :
    Blames (declare e mode priority) (MarkedIn ps) := by
  rw [declare]
  split
  · exact blames_root h _ mode priority
  · exact (blames_refuse h _ _).bind fun _ _ => blames_patch h _ mode priority _

/-- What is wrong with a template is blamed on its element or on something in it. -/
theorem blames_template (name : String) : Blames (template name e) (MarkedIn ps) := by
  rw [template_eq]
  refine (blames_checkId h).bind fun _ _ => ?_
  refine (blames_optional fun s => (blames_demand h _ _).map).bind fun mode _ => ?_
  refine (blames_optional fun s => (blames_demand h _ _).map).bind fun priority _ => ?_
  exact (blames_declare h mode priority).bind fun _ _ => .ok _

omit h

/-- What is wrong around templates is blamed on an outermost node or on a node between the
templates. -/
theorem blames_declarations {nodes : List Located} (h : Laid ps first last nodes) :
    Blames (declarations nodes) (MarkedIn ps) := by
  have hstand : ∀ n ∈ nodes, n.Stands ps := fun n hn => (h.of_mem n hn).1
  refine (blames_elementsOnly _ hstand).bind fun outer houter => ?_
  have hsublist := sublist_elementsOnly houter
  have helement : ∀ e ∈ outer, e.located.Stands ps :=
    fun e he => hstand _ (hsublist.subset (List.mem_map_of_mem he))
  match outer, helement with
  | [], _ => exact .ok []
  | _ :: second :: _, helement =>
      have hsecond := helement second (List.mem_cons_of_mem _ List.mem_cons_self)
      exact .error (markedIn_of_stands hsecond rfl)
  | [e], helement =>
      have he := helement e List.mem_cons_self
      have hchildren : ∀ n ∈ e.children, n.Stands ps :=
        fun n hn => ((laid_children he).of_mem n hn).1
      change Blames (if e.tag = templateTag then _ else if e.tag = templatesTag then _ else _) _
      split
      · exact .ok _
      · split
        · refine (blames_elementsOnly _ hchildren).bind fun elements helements => ?_
          split
          · rename_i other hother
            have hmem := (sublist_elementsOnly helements).subset
              (List.mem_map_of_mem (List.mem_of_find?_eq_some hother))
            exact .error (markedIn_of_stands (hchildren _ hmem) rfl)
          · exact .ok _
        · exact .error (markedIn_of_stands he rfl)

/-- The elements that declare templates stand where nodes stand. -/
theorem laid_declarations {nodes : List Located} (h : Laid ps first last nodes)
    {es : List LocatedElement} (hes : declarations nodes = .ok es) :
    (∀ e ∈ es, e.tag = templateTag) ∧ Laid ps first last (es.map LocatedElement.located) := by
  obtain ⟨htags, hsub | ⟨e, he, hsub⟩⟩ := sublist_declarations hes
  · exact ⟨htags, h.sublist hsub⟩
  · obtain ⟨hstands, hfirst, hlast⟩ := h.of_mem _ he
    exact ⟨htags, (((laid_children hstands).sublist hsub).of_le hfirst).to_le hlast⟩

/-- All errors of a collection are errors of its results. -/
theorem blames_collect {ε α : Type} {P : ε → Prop} {results : List (Except ε α)}
    (h : ∀ r ∈ results, Blames r P) : Blames (collect results) fun es => ∀ e ∈ es, P e := by
  induction results with
  | nil => exact .ok []
  | cons r rest ih =>
      obtain ⟨hr, hrest⟩ := List.forall_mem_cons.mp h
      cases r with
      | ok a => exact (ih hrest).map
      | error e =>
          rw [collect_error]
          refine .error (List.forall_mem_cons.mpr ⟨hr e rfl, ?_⟩)
          split
          · exact nofun
          · rename_i es hes
            exact ih hrest es hes

end Declaration

/-! ### The places of a source -/

namespace Markup

/-- An element with a tag stands at a span of a text: the span covers its pieces, among those that
the whole text is read as, and what it cuts out of the text begins with the tag and ends with the
`>` of the last of the pieces. -/
structure ElementAt (text : List Char) (tag : String) (span : Span) (part : List Piece) :
    Prop where
  /-- The whole text is pieces. -/
  readable : (pieces text).2 = none
  /-- The span covers some of them. -/
  covers : Covers (pieces text).1 part span
  /-- They are an element: a single tag, or a tag with all that its own closing tag closes. -/
  element : ElementOf tag part
  /-- The span cuts them out of the text. -/
  cuts : Cuts text span (part.flatMap Piece.source)
  /-- They begin with the tag. -/
  begins : '<' :: tag.toList <+: part.flatMap Piece.source
  /-- They end with a `>`. -/
  ends : ['>'] <:+ part.flatMap Piece.source

/-- The name of a tag is the beginning of what stands in it. -/
theorem name_isPrefix (content : List Char) : (Tag.name content).toList <+: content := by
  rw [Tag.name, String.toList_ofList]; exact List.takeWhile_prefix _

variable {tag : String} {part : List Piece}

/-- A tag begins with a bracket and its name. -/
theorem begins_of_name {content : List Char} (h : Tag.name content = tag) (rest : List Char) :
    '<' :: tag.toList <+: '<' :: content ++ rest :=
  h ▸ (List.cons_prefix_cons.mpr ⟨rfl, name_isPrefix content⟩).trans (List.prefix_append _ rest)

/-- An element begins with a bracket and its tag. -/
theorem ElementOf.begins (h : ElementOf tag part) :
    '<' :: tag.toList <+: part.flatMap Piece.source := by
  cases h with
  | selfClosing hname => exact (begins_of_name hname _).trans (List.prefix_append _ _)
  | enclosed hname => exact (begins_of_name hname _).trans (List.prefix_append _ _)

theorem ElementOf.ends (h : ElementOf tag part) : ['>'] <:+ part.flatMap Piece.source := by
  cases h with
  | @selfClosing content hname => exact ⟨'<' :: content ++ ['/'], by simp [Piece.source]⟩
  | @enclosed opening closing inner hname hclosing hinner =>
      refine ⟨(.opening opening :: inner).flatMap Piece.source ++ '<' :: '/' :: closing, ?_⟩
      simp [Piece.source]

/-- An element that may have content and stands where its pieces are stands in the text. -/
theorem LocatedElement.elementAt {text : List Char} {ps : List Piece} {e : LocatedElement}
    (hpieces : pieces text = (ps, none)) (he : e.located.Stands ps) (htag : e.tag = tag)
    (hvoid : isVoid tag = false) : ∃ part, ElementAt text tag e.span part := by
  obtain ⟨⟨part, -, hcovers, hpart⟩, -⟩ := Located.stands_element.mp he
  subst htag
  have helement : ElementOf e.tag part := hpart.resolve_left (by simp [hvoid])
  have hcuts := hcovers.cuts []
  rw [List.append_nil, flatMap_source_of_pieces hpieces] at hcuts
  exact ⟨part, by rw [hpieces], by rwa [hpieces], helement, hcuts, helement.begins, helement.ends⟩

end Markup

open Declaration

variable {minify : Bool} {name source : String}

/-- **What is wrong with a source is marked in its text.** -/
theorem marks_of_readTemplates {es : List SourceError}
    (h : readTemplates minify name source = .error es) :
    ∀ e ∈ es, Marks (Markup.dropMark source.toList) e.span := by
  rw [readTemplates] at h
  split at h
  · rename_i e htree
    cases h
    have hspan : (ofNestingError e).span = e.span := by
      rw [ofNestingError]; split <;> rfl
    exact List.forall_mem_singleton.mpr (hspan ▸ Markup.marks_of_readTree htree)
  · rename_i tree htree
    obtain ⟨ps, hpieces, hlaid⟩ := Markup.laid_of_readTree htree
    rw [← Markup.flatMap_source_of_pieces hpieces]
    split at h
    · rename_i e he
      cases h
      exact List.forall_mem_singleton.mpr (blames_declarations hlaid e he)
    · rename_i elements helements
      obtain ⟨-, helaid⟩ := laid_declarations hlaid helements
      refine blames_collect (List.forall_mem_map.mpr fun e he => ?_) es h
      exact blames_template (helaid.of_mem _ (List.mem_map_of_mem he)).1 name

/-- A template and its directives stand at elements of a text, the directives one behind the other
within the template. -/
structure Template.PlacedIn (text : List Char) (t : Template) : Prop where
  /-- The template is an element of the text. -/
  element : ∃ part, Markup.ElementAt text templateTag t.origin.span part
  /-- The text has not ended before the template has. -/
  stop_le : t.origin.span.stop ≤ byteLength text
  /-- The directives stand one behind the other. -/
  pairwise : t.directives.Pairwise fun d d' => d.span.stop ≤ d'.span.start
  /-- Each directive is an element of the text, within the template. -/
  directives : ∀ d ∈ t.directives, (∃ part, Markup.ElementAt text patchTag d.span part) ∧
    t.origin.span.start ≤ d.span.start ∧ d.span.stop ≤ t.origin.span.stop

/-- A template whose element stands among the pieces of a text is placed in the text, with all its
directives. -/
theorem placedIn_of_template {text : List Char} {ps : List Piece} {e : LocatedElement}
    {t : Template} (hpieces : Markup.pieces text = (ps, none)) (he : e.located.Stands ps)
    (htag : e.tag = templateTag) (ht : Declaration.template name e = .ok t) : t.PlacedIn text := by
  obtain ⟨hspan, es, hsub, htags, hspans⟩ := yields_template_standIn name e t ht
  obtain ⟨part, hpart⟩ := Markup.LocatedElement.elementAt hpieces he htag isVoid_templateTag
  have hlaid : Laid ps e.span.start e.span.stop (es.map LocatedElement.located) :=
    (laid_children he).sublist hsub
  refine ⟨⟨part, hspan ▸ hpart⟩, hspan ▸ hpart.cuts.stop_le, ?_, fun d hd => ?_⟩
  · have hpairwise : (t.directives.map (·.span)).Pairwise fun s s' => s.stop ≤ s'.start := by
      rw [hspans]
      exact List.pairwise_map.mpr (List.pairwise_map.mp hlaid.pairwise)
    exact List.pairwise_map.mp hpairwise
  · have hmem : d.span ∈ es.map (·.span) := hspans ▸ List.mem_map_of_mem hd
    obtain ⟨e', he', hd'⟩ := List.mem_map.mp hmem
    obtain ⟨hstands, hstart, hstop⟩ := hlaid.of_mem _ (List.mem_map_of_mem he')
    rw [hspan, ← hd']
    exact ⟨Markup.LocatedElement.elementAt hpieces hstands (htags e' he') isVoid_patchTag,
      hstart, hstop⟩

/-- **Places are those of what they are said of.**  If a source is accepted, its templates are
`template` elements of its text, one behind the other, and their directives are `patch` elements,
one behind the other within their template.  If it is refused, each error marks something in the
text.  Offsets are counted behind the mark that may open the source. -/
theorem readTemplates_placed (minify : Bool) (name source : String) :
    match readTemplates minify name source with
    | .ok ts =>
      ts.Pairwise (fun t t' => t.origin.span.stop ≤ t'.origin.span.start) ∧
        ∀ t ∈ ts, t.PlacedIn (Markup.dropMark source.toList)
    | .error es =>
      ∀ e ∈ es, e.span.start < e.span.stop ∧
        e.span.stop ≤ byteLength (Markup.dropMark source.toList) := by
  split
  · rename_i ts hts
    obtain ⟨tree, es, htree, hes, hcollect⟩ := readTemplates_eq_ok_iff.mp hts
    obtain ⟨ps, hpieces, hlaid⟩ := Markup.laid_of_readTree htree
    obtain ⟨htags, helaid⟩ := laid_declarations hlaid hes
    obtain ⟨hspans, hdeclared⟩ := spans_of_collect hcollect
    refine ⟨?_, fun t ht => ?_⟩
    · have hpairwise : (ts.map (·.origin.span)).Pairwise fun s s' => s.stop ≤ s'.start := by
        rw [hspans]
        exact List.pairwise_map.mpr (List.pairwise_map.mp helaid.pairwise)
      exact List.pairwise_map.mp hpairwise
    · obtain ⟨e, he, ht⟩ := hdeclared t ht
      obtain ⟨hstands, -⟩ := helaid.of_mem _ (List.mem_map_of_mem he)
      exact placedIn_of_template hpieces hstands (htags e he) ht
  · rename_i es hes
    exact fun e he => have h := marks_of_readTemplates hes e he; ⟨h.lt, h.stop_le⟩

end MarkupTemplates
