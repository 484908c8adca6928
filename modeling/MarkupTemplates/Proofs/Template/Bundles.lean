import Mathlib.Data.List.Forall2
import MarkupTemplates.Proofs.Markup.Enclosed
import MarkupTemplates.Proofs.Markup.Gaps
import MarkupTemplates.Proofs.Markup.RoundTrip
import MarkupTemplates.Proofs.Template.Relocated
import MarkupTemplates.Proofs.Template.WellFormed

/-!
# Bundles of sources

Sources with one template each may stand one behind the other in one list of templates, and declare
there what they declare for themselves (`readTemplates_bundle`).

The texts of neighbouring sources meet, so that what is read of a bundle is not the trees of its
sources one after the other.  But what meets is blank on both sides: a source is markup between two
gaps (`Markup.Holds`), and the markup is read inside the open list as it is read for itself
(`Markup.Nesting.foldlM_enclosing`), moved to where it stands.  From source to source, only the gap
behind the last markup and the number of tags that are still open are carried on
(`Markup.readFrom_sources`).
-/

namespace MarkupTemplates

open Markup (Piece Located LocatedElement Nesting Gap Closed textPieces textNodes dropMark pieces
  readTree EndsText)
open Text (Span Relocation byteLength)

/-! ### Elements and blank texts -/

namespace Declaration

/-- The nodes are these elements, with blank texts between them. -/
inductive Elements : List Located → List LocatedElement → Prop where
  | nil : Elements [] []
  | element {ns : List Located} {es : List LocatedElement} (e : LocatedElement) :
      Elements ns es → Elements (.element e.tag e.attributes e.children e.span :: ns) (e :: es)
  | blank {ns : List Located} {es : List LocatedElement} {content : String} {span : Span} :
      Text.isBlankText content = true → Elements ns es → Elements (.text content span :: ns) es

/-- What is accepted as elements are elements with blank texts between them. -/
theorem elements_of_elementsOnly {place : String} : ∀ {ns : List Located}
    {es : List LocatedElement}, elementsOnly place ns = .ok es → Elements ns es
  | [], _, h => by cases h; exact .nil
  | .element tag attributes children span :: rest, es, h => by
      rw [elementsOnly] at h
      cases hrest : elementsOnly place rest with
      | error e => rw [hrest] at h; cases h
      | ok more =>
          rw [hrest] at h
          cases h
          exact .element ⟨tag, attributes, children, span⟩ (elements_of_elementsOnly hrest)
  | .text content span :: rest, es, h => by
      rw [elementsOnly] at h
      split at h
      · rename_i hblank
        exact .blank hblank (elements_of_elementsOnly h)
      · cases h

variable {ms ns : List Located} {as bs es : List LocatedElement}

/-- Elements with blank texts between them are accepted, wherever they stand. -/
theorem Elements.elementsOnly_eq (h : Elements ns es) (place : String) :
    elementsOnly place ns = .ok es := by
  induction h with
  | nil => rfl
  | element e _ ih => rw [elementsOnly, ih]; rfl
  | blank hblank _ ih => rw [elementsOnly, if_pos hblank, ih]

theorem Elements.append (hms : Elements ms as) (hns : Elements ns bs) :
    Elements (ms ++ ns) (as ++ bs) := by
  induction hms with
  | nil => exact hns
  | element e _ ih => exact .element e ih
  | blank hblank _ ih => exact .blank hblank ih

/-- The elements of two lists come from the first and then from the second. -/
theorem exists_of_elements_append (h : Elements (ms ++ ns) es) :
    ∃ as bs, Elements ms as ∧ Elements ns bs ∧ es = as ++ bs := by
  induction ms generalizing es with
  | nil => exact ⟨[], es, .nil, h, rfl⟩
  | cons m ms ih =>
      cases h with
      | element e hrest =>
          obtain ⟨as, bs, hms, hns, rfl⟩ := ih hrest
          exact ⟨e :: as, bs, .element e hms, hns, rfl⟩
      | blank hblank hrest =>
          obtain ⟨as, bs, hms, hns, rfl⟩ := ih hrest
          exact ⟨as, bs, .blank hblank hms, hns, rfl⟩

theorem Elements.relocate (h : Elements ns es) (r : Relocation) :
    Elements (Located.relocateAll r ns) (es.map (LocatedElement.relocate r)) :=
  elements_of_elementsOnly
    ((elementsOnly_relocate r "" ns).of_ok (h.elementsOnly_eq ""))

theorem Elements.mem (h : Elements ns es) {e : LocatedElement}
    (he : .element e.tag e.attributes e.children e.span ∈ ns) : e ∈ es := by
  induction h with
  | nil => cases he
  | element e' _ ih =>
      rcases List.mem_cons.mp he with heq | he
      · obtain ⟨tag, attributes, children, span⟩ := e'
        cases heq
        exact List.mem_cons_self
      · exact List.mem_cons_of_mem _ (ih he)
  | blank _ _ ih =>
      rcases List.mem_cons.mp he with heq | he
      · cases heq
      · exact ih he

theorem elements_nil_iff : Elements [] es ↔ es = [] :=
  ⟨fun h => by cases h; rfl, fun h => h ▸ .nil⟩

theorem elements_text_iff {content : String} {span : Span} :
    Elements [.text content span] es ↔ Text.isBlankText content = true ∧ es = [] := by
  constructor
  · intro h
    cases h with
    | blank hblank hrest => exact ⟨hblank, elements_nil_iff.mp hrest⟩
  · rintro ⟨hblank, rfl⟩
    exact .blank hblank .nil

/-- A text is passed over just if it is blank. -/
theorem elements_textNodes_iff {minify : Bool} {content : List Char} {span : Span} :
    Elements (textNodes minify content span) es ↔
      content.all Text.isBlank = true ∧ es = [] := by
  have hkept : (if minify then Text.trimList content else content).all Text.isBlank =
      content.all Text.isBlank := by
    split
    · have htrim := @Text.isBlankText_trim (String.ofList content)
      simpa only [Text.isBlankText, Text.trim, String.toList_ofList] using htrim
    · rfl
  rw [← hkept]
  simp only [textNodes]
  generalize (if minify then Text.trimList content else content) = kept
  cases kept with
  | nil => simp [elements_nil_iff]
  | cons c cs =>
      rw [List.isEmpty_cons, if_neg (by decide), elements_text_iff, Text.isBlankText,
        String.toList_ofList]

end Declaration

/-! ### A source between gaps -/

namespace Markup

/-- The text is markup between two gaps that is read, for itself, as complete nodes: these elements
with blank texts between them. -/
def Holds (minify : Bool) (cs : List Char) (es : List LocatedElement) : Prop :=
  ∃ lead body trail m, cs = lead ++ (body.flatMap Piece.source ++ trail) ∧
    Gap lead ∧ Gap trail ∧ Closed body ∧
    body.foldlM (Nesting.step minify) ⟨byteLength lead, 0, [], []⟩ = .ok m ∧
    m.opened = [] ∧ Declaration.Elements m.top es

variable {minify : Bool}

/-- What is read of a gap, or of another run of characters without markup. -/
theorem exists_of_foldlM_textPieces {w : List Char} {n m : Nesting}
    (h : (textPieces w).foldlM (Nesting.step minify) n = .ok m) :
    ∃ content span, Entity.decode w = .ok content ∧
      m = n.extend (textNodes minify content span) (n.offset + byteLength w) := by
  rw [Nesting.foldlM_textPieces] at h
  cases hdecode : Entity.decode w with
  | error fault => rw [hdecode] at h; cases h
  | ok content => rw [hdecode] at h; cases h; exact ⟨content, _, rfl, rfl⟩

/-- **A source that only holds elements** holds them between two gaps. -/
theorem holds_of_readTree {cs : List Char} {tree : List Located} {es : List LocatedElement}
    (hmark : dropMark cs = cs) (htree : readTree minify cs = .ok tree)
    (hes : Declaration.Elements tree es) : Holds minify cs es := by
  obtain ⟨ps, n, hpieces, hn, hopened, rfl⟩ := exists_pieces_of_readTree htree
  rw [hmark] at hpieces
  obtain ⟨lead, body, trail, hcs, hlead, htrail, hbody, -, rfl⟩ := exists_closed_of_pieces hpieces
  obtain ⟨n₁, hfirst, hrest⟩ := exists_of_foldlM_append hn
  obtain ⟨n₂, hmid, hlast⟩ := exists_of_foldlM_append hrest
  obtain ⟨first, span, hdecode, rfl⟩ := exists_of_foldlM_textPieces hfirst
  obtain ⟨last, span', hdecode', rfl⟩ := exists_of_foldlM_textPieces hlast
  -- the text at the beginning is taken away from what is read behind it
  let f := Nesting.start.extend (textNodes minify first span) (0 + byteLength lead)
  have hf : f.enclosing ⟨0 + byteLength lead, 0, [], []⟩ = f := by
    simp [f, Nesting.enclosing, Nesting.extend, Nesting.start]
  have hmid : body.foldlM (Nesting.step minify) (f.enclosing ⟨0 + byteLength lead, 0, [], []⟩) =
      .ok n₂ := hf.symm ▸ hmid
  obtain ⟨m, hm, rfl⟩ := Nesting.exists_of_foldlM_enclosing rfl rfl hmid
  obtain ⟨offset, unanswered, opened, top⟩ := m
  cases opened with
  | cons e outer => cases hopened
  | nil =>
      -- the tree is the text at the beginning, the nodes of the markup, and the text at the end
      obtain ⟨front, back, hfront, hback, rfl⟩ := Declaration.exists_of_elements_append hes
      obtain ⟨none, inner, hnone, hinner, rfl⟩ := Declaration.exists_of_elements_append hfront
      obtain ⟨hblank, rfl⟩ := Declaration.elements_textNodes_iff.mp hnone
      obtain ⟨hblank', rfl⟩ := Declaration.elements_textNodes_iff.mp hback
      rw [Nat.zero_add] at hm
      refine ⟨lead, body, trail, _, hcs, ⟨hlead, first, hdecode, hblank⟩,
        ⟨htrail, last, hdecode', hblank'⟩, hbody, hm, rfl, ?_⟩
      rwa [List.nil_append, List.append_nil]

/-! ### Sources behind each other -/

/-- The offsets at which texts stand that are put one behind the other, the first one at `k`. -/
def offsetsFrom (k : Nat) : List (List Char) → List Nat
  | [] => []
  | cs :: more => k :: offsetsFrom (k + byteLength cs) more

variable {tag : String}

/-- The closing tag of the one element that is open ends the text. -/
theorem readFrom_closing (htag : isName tag = true) (hvoid : isVoid tag = false)
    {offset unanswered : Nat} {e : LocatedElement} (he : e.tag = tag) :
    ∃ stop, (Nesting.mk offset (unanswered + 1) [e] []).readFrom minify
        (Piece.closing tag.toList).source =
      .ok [.element tag e.attributes e.children ⟨e.span.start, stop⟩] := by
  let stop := offset + byteLength (Piece.closing tag.toList).source
  have hread : Piece.read '<' ('/' :: (tag.toList ++ ['>'])) = .ok (.closing tag.toList, []) :=
    read_closing htag []
  have htake : (Nesting.mk offset (unanswered + 1) [e] []).take minify ⟨offset, stop⟩
      (.closing tag.toList) =
      .ok ⟨offset, unanswered, [], [.element tag e.attributes e.children ⟨e.span.start, stop⟩]⟩ := by
    rw [Nesting.take, Nesting.closeTag, closingName_toList htag]
    simp only [hvoid, Nesting.close, he]
    rfl
  have hsource : (Piece.closing tag.toList).source = '<' :: ('/' :: (tag.toList ++ ['>'])) := rfl
  refine ⟨stop, ?_⟩
  rw [hsource, Nesting.readFrom_of_read hread (Nesting.step_of_take htake), Nesting.readFrom_nil]
  rfl

/-- A gap adds no elements to what has been read. -/
theorem readFrom_gap {w cs : List Char} (hw : Gap w) (hcs : EndsText cs) (n : Nesting) :
    ∃ texts, Declaration.Elements texts [] ∧
      n.readFrom minify (w ++ cs) =
        (n.extend texts (n.offset + byteLength w)).readFrom minify cs := by
  obtain ⟨content, hdecode, hblank⟩ := hw.blank
  have hfold := Nesting.foldlM_textPieces minify n w
  simp only [hdecode] at hfold
  exact ⟨_, Declaration.elements_textNodes_iff.mpr ⟨hblank, rfl⟩,
    Nesting.readFrom_append (pieces_textPieces hw.no_markup hcs) hfold⟩

/-- **Sources that hold elements, one behind the other in an open element**: up to its closing tag,
their elements become its children, moved to where their sources stand, with blank texts between
them. -/
theorem readFrom_sources (htag : isName tag = true) (hvoid : isVoid tag = false)
    {sources : List (List Char)} {elements : List LocatedElement}
    (hsources : List.Forall₂ (fun cs e => Holds minify cs [e]) sources elements) :
    ∀ {offset unanswered : Nat} {e : LocatedElement} {w : List Char}, e.tag = tag → Gap w →
      ∃ children stop, (Nesting.mk offset (unanswered + 1) [e] []).readFrom minify
          (w ++ (sources.flatten ++ (Piece.closing tag.toList).source)) =
        .ok [.element tag e.attributes (e.children ++ children) ⟨e.span.start, stop⟩] ∧
        Declaration.Elements children (List.zipWith
          (fun place e => e.relocate (.shift place))
          (offsetsFrom (offset + byteLength w) sources) elements) := by
  induction hsources with
  | nil =>
      intro offset unanswered e w he hw
      have hends : EndsText (Piece.closing tag.toList).source := endsText_cons _
      obtain ⟨texts, htexts, hread⟩ :=
        @readFrom_gap minify _ _ hw hends ⟨offset, unanswered + 1, [e], []⟩
      have he' : ({ e with children := e.children ++ texts } : LocatedElement).tag = tag := he
      obtain ⟨stop, hclose⟩ := @readFrom_closing minify _ htag hvoid _ _ _ he'
      exact ⟨texts, stop, hread.trans hclose, htexts⟩
  | @cons cs first sources elements hsource _ ih =>
      intro offset unanswered e w he hw
      obtain ⟨lead, body, trail, m, rfl, hlead, htrail, hbody, hm, hopened, hfirst⟩ := hsource
      have hne : body ≠ [] := by
        rintro rfl
        cases hm
        cases Declaration.elements_nil_iff.mp hfirst
      obtain ⟨k, u, opened, nodes⟩ := m
      obtain rfl : opened = [] := hopened
      have hoffset : k = byteLength lead + byteLength (body.flatMap Piece.source) :=
        Nesting.offset_of_foldlM hm
      let rest := sources.flatten ++ (Piece.closing tag.toList).source
      let n : Nesting := ⟨offset, unanswered + 1, [e], []⟩
      let distance := offset + byteLength w
      let moved := Located.relocateAll (.shift distance) nodes
      -- the gap before the markup goes on from the one at the end of the source before
      obtain ⟨texts, htexts, hgap⟩ := @readFrom_gap minify _ _ (hw.append hlead)
        (hbody.endsText_append hne (trail ++ rest)) n
      -- the markup is read within the open element as it was for itself, and moved
      let n₁ := n.extend texts (n.offset + byteLength (w ++ lead))
      let inner : LocatedElement := { e with children := e.children ++ texts ++ moved }
      let n₂ : Nesting := ⟨k + distance, unanswered + u + 1, [inner], []⟩
      have hmoved := Nesting.foldlM_relocate hm (Relocation.moves_shift distance _ _)
      have hplace : byteLength lead + distance = offset + byteLength (w ++ lead) := by
        rw [Text.byteLength_append]; omega
      have hbegin : n₁.enclosing (Nesting.relocate (.shift distance) distance
          ⟨byteLength lead, 0, [], []⟩) = n₁ := by
        simp only [n₁, n, Nesting.enclosing, Nesting.relocate, Nesting.extend, hplace,
          Located.relocateAll, List.map_nil, List.nil_append, List.append_nil, Nat.add_zero]
      have hend : n₁.enclosing (Nesting.relocate (.shift distance) distance ⟨k, u, [], nodes⟩) =
          n₂ := by
        simp only [n₁, n₂, n, inner, moved, Nesting.enclosing, Nesting.relocate, Nesting.extend,
          List.map_nil, List.nil_append, Nat.add_right_comm unanswered 1 u]
      have hread₁ : body.foldlM (Nesting.step minify) n₁ = .ok n₂ := by
        rw [← hbegin, ← hend]
        exact Nesting.foldlM_enclosing hmoved
      have hread₂ := Nesting.readFrom_append (hbody.pieces_append (trail ++ rest)) hread₁
      obtain ⟨children, stop, hread, helements⟩ :=
        @ih (k + distance) (unanswered + u) inner trail he htrail
      refine ⟨texts ++ (moved ++ children), stop, ?_, ?_⟩
      · have htext : w ++ (((lead ++ (body.flatMap Piece.source ++ trail)) :: sources).flatten ++
            (Piece.closing tag.toList).source) =
            w ++ lead ++ (body.flatMap Piece.source ++ (trail ++ rest)) := by
          simp only [rest, List.flatten_cons, List.append_assoc]
        rw [htext, hgap, hread₂, hread]
        simp only [inner, List.append_assoc]
      · have hnext : k + distance + byteLength trail =
            distance + byteLength (lead ++ (body.flatMap Piece.source ++ trail)) := by
          rw [Text.byteLength_append, Text.byteLength_append]
          omega
        rw [hnext] at helements
        exact htexts.append ((hfirst.relocate _).append helements)

end Markup

/-! ### Templates of a bundle -/

namespace Declaration

variable {name : String}

/-- The one `template` element of a source. -/
theorem exists_of_declarations {tree : List Located} {es : List LocatedElement}
    (root : LocatedElement) (h : declarations tree = .ok es) (htag : root.tag = templateTag)
    (hroot : .element root.tag root.attributes root.children root.span ∈ tree) :
    es = [root] ∧ Elements tree [root] := by
  obtain ⟨outer, houter, hdeclares⟩ := declarations_eq_ok_iff.mp h
  have helements := elements_of_elementsOnly houter
  have hmem := helements.mem hroot
  cases hdeclares with
  | nothing => cases hmem
  | template _ =>
      obtain rfl := List.mem_singleton.mp hmem
      exact ⟨rfl, helements⟩
  | templates htemplates _ _ =>
      obtain rfl := List.mem_singleton.mp hmem
      exact absurd (htemplates.symm.trans htag) (by decide)

/-- A list of templates declares the `template` elements in it. -/
theorem declarations_templates {attributes : Markup.Attributes} {children : List Located}
    {span : Span} {es : List LocatedElement} (h : Elements children es)
    (htags : ∀ e ∈ es, e.tag = templateTag) :
    declarations [.element templatesTag attributes children span] = .ok es := by
  let e : LocatedElement := ⟨templatesTag, attributes, children, span⟩
  exact declarations_eq_ok_iff.mpr ⟨[e], rfl, .templates rfl (h.elementsOnly_eq _) htags⟩

/-- Results without an error are collected, in their order. -/
theorem collect_of_forall₂ {ε α β : Type} {f : α → Except ε β} {as : List α} {bs : List β}
    (h : List.Forall₂ (fun a b => f a = .ok b) as bs) : collect (as.map f) = .ok bs := by
  induction h with
  | nil => rfl
  | cons ha _ ih => rw [List.map_cons, ha, collect, ih]; rfl

end Declaration

open Declaration (template collect)
open Markup (offsetsFrom Holds)

/-- A source that is accepted, opened by no mark, with a single `template` element at the top. -/
structure SingleRoot (minify : Bool) (name source : String) : Prop where
  /-- The source does not begin with a byte order mark. -/
  unmarked : dropMark source.toList = source.toList
  /-- The source is accepted. -/
  accepted : ∃ ts, readTemplates minify name source = .ok ts
  /-- An outermost element is a `template`. -/
  root : ∃ tree attributes children span, readTree minify source.toList = .ok tree ∧
    .element templateTag attributes children span ∈ tree

/-- A list of templates with sources in it, one behind the other. -/
def bundle (sources : List String) : String :=
  "<templates>" ++ String.join sources ++ "</templates>"

/-- The templates, each moved behind the text that comes before its source. -/
def placed (sources : List String) (ts : List Template) : List Template :=
  List.zipWith (fun offset t => t.relocate (.shift offset))
    (offsetsFrom (byteLength "<templates>".toList) (sources.map String.toList)) ts

variable {minify : Bool} {name : String}

/-- A source with a single root declares one template, by its one element. -/
theorem SingleRoot.exists_template {source : String} (h : SingleRoot minify name source) :
    ∃ e t, Holds minify source.toList [e] ∧ e.tag = templateTag ∧ template name e = .ok t ∧
      readTemplates minify name source = .ok [t] := by
  obtain ⟨ts, hts⟩ := h.accepted
  obtain ⟨tree, attributes, children, span, htree, hmem⟩ := h.root
  obtain ⟨tree', es, htree', hes, hcollect⟩ := readTemplates_eq_ok_iff.mp hts
  obtain rfl : tree = tree' := Except.ok.inj (htree.symm.trans htree')
  let e : LocatedElement := ⟨templateTag, attributes, children, span⟩
  obtain ⟨rfl, helements⟩ := Declaration.exists_of_declarations e hes rfl hmem
  cases ht : template name e with
  | error fault => rw [List.map_singleton, ht] at hcollect; cases hcollect
  | ok t =>
      rw [List.map_singleton, ht] at hcollect
      cases hcollect
      exact ⟨e, t, Markup.holds_of_readTree h.unmarked htree helements, rfl, ht, hts⟩

/-- What declares templates declares them at other places as well. -/
theorem forall₂_shifted {es : List LocatedElement} {ts : List Template}
    (h : List.Forall₂ (fun e t => e.tag = templateTag ∧ template name e = .ok t) es ts) :
    ∀ offsets : List Nat, List.Forall₂ (fun e t => e.tag = templateTag ∧ template name e = .ok t)
      (List.zipWith (fun offset e => e.relocate (.shift offset)) offsets es)
      (List.zipWith (fun offset t => t.relocate (.shift offset)) offsets ts) := by
  induction h with
  | nil => intro offsets; rw [List.zipWith_nil_right, List.zipWith_nil_right]; exact .nil
  | cons ht _ ih =>
      intro offsets
      cases offsets with
      | nil => exact .nil
      | cons offset offsets =>
          exact .cons ⟨ht.1, (Declaration.template_relocate _ name _).of_ok ht.2⟩ (ih offsets)

/-- What sources with single roots declare. -/
theorem exists_forall₂_of_singleRoot {sources : List String}
    (h : ∀ source ∈ sources, SingleRoot minify name source) :
    ∃ es ts, List.Forall₂ (fun source e => Holds minify source.toList [e]) sources es ∧
      List.Forall₂ (fun e t => e.tag = templateTag ∧ template name e = .ok t) es ts ∧
      List.Forall₂ (fun source t => readTemplates minify name source = .ok [t]) sources ts := by
  induction sources with
  | nil => exact ⟨[], [], .nil, .nil, .nil⟩
  | cons source sources ih =>
      obtain ⟨hsource, hsources⟩ := List.forall_mem_cons.mp h
      obtain ⟨e, t, hholds, htag, ht, hread⟩ := hsource.exists_template
      obtain ⟨es, ts, hes, hts, hreads⟩ := ih hsources
      exact ⟨e :: es, t :: ts, .cons hholds hes, .cons ⟨htag, ht⟩ hts, .cons hread hreads⟩

theorem toList_bundle (sources : List String) :
    (bundle sources).toList = '<' :: (Markup.tagContent templatesTag ∅ ++
      '>' :: ((sources.map String.toList).flatten ++
        (Piece.closing templatesTag.toList).source)) := by
  have hopening : "<templates>".toList = '<' :: (Markup.tagContent templatesTag ∅ ++ ['>']) := by
    decide
  have hclosing : "</templates>".toList = (Piece.closing templatesTag.toList).source := by decide
  rw [bundle, String.toList_append, String.toList_append, hopening, hclosing, String.toList_join,
    List.flatMap_def]
  simp

/-- The tree of a bundle: one list of templates, with what the sources hold. -/
theorem readTree_bundle {sources : List String} {es : List LocatedElement}
    (h : List.Forall₂ (fun source e => Holds minify source.toList [e]) sources es) :
    ∃ children span, readTree minify (bundle sources).toList =
        .ok [.element templatesTag ∅ children span] ∧
      Declaration.Elements children (List.zipWith (fun offset e => e.relocate (.shift offset))
        (offsetsFrom (byteLength "<templates>".toList) (sources.map String.toList)) es) := by
  have hproper : Markup.Proper templatesTag ∅ := ⟨by decide, by decide, by decide⟩
  have hvoid : Markup.isVoid templatesTag = false := by decide +kernel
  let start := byteLength "<templates>".toList
  let e : LocatedElement := ⟨templatesTag, ∅, [], ⟨0, start⟩⟩
  have hopen : Nesting.start.step minify (.opening (Markup.tagContent templatesTag ∅)) =
      .ok ⟨start + 0, 0 + 1, [e], []⟩ := Markup.step_opening hproper hvoid Nesting.start
  have hsources : List.Forall₂ (fun cs e => Holds minify cs [e]) (sources.map String.toList) es :=
    List.forall₂_map_left_iff.mpr h
  obtain ⟨children, stop, hread, helements⟩ :=
    @Markup.readFrom_sources minify _ hproper.tag hvoid _ _ hsources start 0 e [] rfl Markup.gap_nil
  refine ⟨children, ⟨0, stop⟩, ?_, helements⟩
  rw [toList_bundle, Nesting.readTree_eq_readFrom]
  exact (Nesting.readFrom_of_read (hproper.read_opening _) hopen).trans hread

/-- **Bundling is loading separately.**  Sources with a single `template` element each, one behind
the other in a list of templates, declare the templates that they declare for themselves, in their
order, moved to where their sources stand. -/
theorem readTemplates_bundle {sources : List String}
    (h : ∀ source ∈ sources, SingleRoot minify name source) :
    ∃ ts, List.Forall₂ (fun source t => readTemplates minify name source = .ok [t]) sources ts ∧
      readTemplates minify name (bundle sources) = .ok (placed sources ts) := by
  obtain ⟨es, ts, hes, hts, hreads⟩ := exists_forall₂_of_singleRoot h
  obtain ⟨children, span, htree, helements⟩ := readTree_bundle hes
  obtain ⟨htags, hplaced⟩ := (List.forall₂_and_left _ _).mp (forall₂_shifted hts _)
  exact ⟨ts, hreads, readTemplates_eq_ok_iff.mpr ⟨_, _, htree,
    Declaration.declarations_templates helements htags, Declaration.collect_of_forall₂ hplaced⟩⟩

/-- A blank reference and a tag that is never closed, and a layer whose gap goes on from the gap of
the source before. -/
theorem readTemplates_bundle_gaps :
    let root := "<!-- a -->&#32;<template id=\"a\"><br>x</template> "
    let layer := "\n<template extend=\"a\"><patch path=\"br\" action=\"remove\"/></template>"
    (∀ source ∈ [root, layer], SingleRoot false "a.html" source) ∧
      ∃ ts, List.Forall₂ (fun source t => readTemplates false "a.html" source = .ok [t])
          [root, layer] ts ∧
        readTemplates false "a.html" (bundle [root, layer]) = .ok (placed [root, layer] ts) ∧
        (placed [root, layer] ts).map (fun t => (t.id, t.origin.span, t.directives.map (·.span))) =
          [("a", ⟨26, 59⟩, []), ("a", ⟨61, 127⟩, [⟨82, 116⟩])] := by
  intro root layer
  have hroot : readTemplates false "a.html" root = .ok [⟨"a",
      .root [.element "br" ⟨[]⟩ [], .text "x"], ⟨"a.html", ⟨15, 48⟩⟩⟩] := by simp only [root]; cbv
  have hlayer : readTemplates false "a.html" layer = .ok [⟨"a",
      .layer "a" 0 [⟨⟨"br", [⟨.child, .named "br", []⟩]⟩, .remove, [], false, ⟨22, 56⟩⟩],
      ⟨"a.html", ⟨1, 67⟩⟩⟩] := by simp only [layer]; cbv
  have hrootTree : readTree false root.toList = .ok [.text " " ⟨10, 15⟩,
      .element templateTag ⟨[("id", "a")]⟩ [.element "br" ⟨[]⟩ [] ⟨32, 36⟩, .text "x" ⟨36, 37⟩]
        ⟨15, 48⟩, .text " " ⟨48, 49⟩] := by simp only [root]; cbv
  have hlayerTree : readTree false layer.toList = .ok [.text "\n" ⟨0, 1⟩,
      .element templateTag ⟨[("extend", "a")]⟩
        [.element patchTag ⟨[("path", "br"), ("action", "remove")]⟩ [] ⟨22, 56⟩] ⟨1, 67⟩] := by
    simp only [layer]; cbv
  have hrootSingle : SingleRoot false "a.html" root :=
    ⟨by decide +kernel, ⟨_, hroot⟩, _, _, _, _, hrootTree,
      List.mem_cons_of_mem _ List.mem_cons_self⟩
  have hlayerSingle : SingleRoot false "a.html" layer :=
    ⟨by decide +kernel, ⟨_, hlayer⟩, _, _, _, _, hlayerTree,
      List.mem_cons_of_mem _ List.mem_cons_self⟩
  have hall : ∀ source ∈ [root, layer], SingleRoot false "a.html" source :=
    List.forall_mem_cons.mpr ⟨hrootSingle, List.forall_mem_singleton.mpr hlayerSingle⟩
  refine ⟨hall, ?_⟩
  obtain ⟨ts, hts, hbundle⟩ := readTemplates_bundle hall
  refine ⟨ts, hts, hbundle, ?_⟩
  cases hts with
  | cons hfirst hrest =>
      cases hrest with
      | cons hsecond hnil =>
          cases hnil
          obtain rfl := List.singleton_inj.mp (Except.ok.inj (hfirst.symm.trans hroot))
          obtain rfl := List.singleton_inj.mp (Except.ok.inj (hsecond.symm.trans hlayer))
          decide +kernel

end MarkupTemplates
