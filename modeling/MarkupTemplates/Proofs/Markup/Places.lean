import MarkupTemplates.Proofs.Markup.Reading
import MarkupTemplates.Proofs.Text.Slices

/-!
# Where the nodes of a tree stand

The pieces of an element are its opening tag, pieces whose tags answer each other (`Balanced`), and
its own closing tag; or they are a single tag (`ElementOf`).  Each node of a tree that is read
stands where its pieces are, the children within their element and one behind the other (`Laid`).

The invariant follows the reader (`Nesting.Traced`): between the opening tags of the elements that
are open, the pieces are balanced, and the complete nodes of each open element are laid behind its
opening tag.  `Nested.extend` is the step that completes nodes, `Traced.step` adds one piece, and
`laid_of_readTree` is what comes of it.
-/

namespace MarkupTemplates.Markup

open Text (Span byteLength Cuts)
open Nesting (closingName)

/-! ### Rows of pieces -/

/-- The number of bytes of a row of pieces. -/
def extent (ps : List Piece) : Nat := byteLength (ps.flatMap Piece.source)

@[simp] theorem extent_nil : extent [] = 0 := rfl

@[simp] theorem extent_append (ps qs : List Piece) : extent (ps ++ qs) = extent ps + extent qs := by
  rw [extent, List.flatMap_append, Text.byteLength_append]; rfl

@[simp] theorem extent_cons (p : Piece) (ps : List Piece) :
    extent (p :: ps) = byteLength p.source + extent ps := by
  rw [extent, List.flatMap_cons, Text.byteLength_append]; rfl

/-- Pieces take up at least one byte. -/
theorem extent_pos {ps : List Piece} (h : ps ≠ []) : 0 < extent ps := by
  obtain ⟨p, ps, rfl⟩ := List.exists_cons_of_ne_nil h
  have := Text.byteLength_pos p.source_ne_nil
  rw [extent_cons]; omega

/-- The piece neither begins nor ends an element that may have content. -/
def Piece.Neutral : Piece → Prop
  | .opening content => isVoid (Tag.name content) = true
  | .closing content => isVoid (closingName content) = true
  | _ => True

/-- The tags of the pieces answer each other. -/
inductive Balanced : List Piece → Prop where
  | nil : Balanced []
  | neutral {p : Piece} : p.Neutral → Balanced [p]
  | append {ps qs : List Piece} : Balanced ps → Balanced qs → Balanced (ps ++ qs)
  | enclosed {opening closing : List Char} {inner : List Piece} :
      isVoid (Tag.name opening) = false → closingName closing = Tag.name opening →
      Balanced inner → Balanced (.opening opening :: inner ++ [.closing closing])

/-- The pieces are those of one element with a tag: the tag of an element without content, or an
opening tag, balanced pieces and the closing tag that answers it. -/
inductive ElementOf (tag : String) : List Piece → Prop where
  | selfClosing {content : List Char} :
      Tag.name content = tag → ElementOf tag [.selfClosing content]
  | enclosed {opening closing : List Char} {inner : List Piece} :
      Tag.name opening = tag → closingName closing = tag → Balanced inner →
      ElementOf tag (.opening opening :: inner ++ [.closing closing])

/-- Of a row of pieces with which a text begins, the span covers a part. -/
def Covers (ps part : List Piece) (s : Span) : Prop :=
  ∃ before after, ps = before ++ part ++ after ∧ s = ⟨extent before, extent (before ++ part)⟩

/-- What a span covers it covers in a longer text as well. -/
theorem Covers.append {ps part : List Piece} {s : Span} (h : Covers ps part s)
    (more : List Piece) : Covers (ps ++ more) part s := by
  obtain ⟨before, after, rfl, rfl⟩ := h
  exact ⟨before, after ++ more, by simp only [List.append_assoc], rfl⟩

/-- A span that covers pieces is not empty. -/
theorem Covers.lt {ps part : List Piece} {s : Span} (h : Covers ps part s) (hpart : part ≠ []) :
    s.start < s.stop := by
  obtain ⟨before, after, -, rfl⟩ := h
  have := extent_pos hpart
  simp only [extent_append]; omega

/-- The last pieces so far are covered up to where the text has been read. -/
theorem covers_end (ps part : List Piece) :
    Covers (ps ++ part) part ⟨extent ps, extent (ps ++ part)⟩ :=
  ⟨ps, [], by rw [List.append_nil], rfl⟩

/-- A covered part is a slice of every text that begins with the pieces. -/
theorem Covers.cuts {ps part : List Piece} {s : Span} (h : Covers ps part s)
    (rest : List Char) : Cuts (ps.flatMap Piece.source ++ rest) s (part.flatMap Piece.source) := by
  obtain ⟨before, after, rfl, rfl⟩ := h
  refine ⟨before.flatMap Piece.source, after.flatMap Piece.source ++ rest, ?_, rfl, ?_⟩
  · simp only [List.flatMap_append, List.append_assoc]
  · exact extent_append before part

/-! ### Nodes in their places -/

mutual

/-- The node stands where its pieces are, and its children within it. -/
def Located.Stands (ps : List Piece) : Located → Prop
  | .element tag _ children span =>
    (∃ part, part ≠ [] ∧ Covers ps part span ∧ (isVoid tag = true ∨ ElementOf tag part)) ∧
      Laid ps span.start span.stop children
  | .text _ span => ∃ p, Covers ps [p] span

/-- The nodes stand where their pieces are, one behind the other between two offsets. -/
def Laid (ps : List Piece) (first last : Nat) : List Located → Prop
  | [] => first ≤ last
  | n :: ns => n.Stands ps ∧ first ≤ n.span.start ∧ Laid ps n.span.stop last ns

end

variable {ps qs : List Piece} {first mid last : Nat} {n : Located} {ms ns : List Located}

@[simp] theorem Located.stands_text {content : String} {span : Span} :
    (Located.text content span).Stands ps ↔ ∃ p, Covers ps [p] span := by rw [Located.Stands]

@[simp] theorem Located.stands_element {tag : String} {attributes : Attributes} {span : Span} :
    (Located.element tag attributes ns span).Stands ps ↔
      (∃ part, part ≠ [] ∧ Covers ps part span ∧ (isVoid tag = true ∨ ElementOf tag part)) ∧
        Laid ps span.start span.stop ns := by rw [Located.Stands]

@[simp] theorem laid_nil : Laid ps first last [] ↔ first ≤ last := by rw [Laid]

@[simp] theorem laid_cons :
    Laid ps first last (n :: ns) ↔
      n.Stands ps ∧ first ≤ n.span.start ∧ Laid ps n.span.stop last ns := by rw [Laid]

/-- A node that stands somewhere covers pieces. -/
theorem Located.Stands.covers (h : n.Stands ps) : ∃ part, part ≠ [] ∧ Covers ps part n.span := by
  cases n with
  | element tag attributes children span =>
      obtain ⟨⟨part, hne, hcovers, -⟩, -⟩ := Located.stands_element.mp h
      exact ⟨part, hne, hcovers⟩
  | text content span =>
      obtain ⟨p, hcovers⟩ := Located.stands_text.mp h
      exact ⟨[p], List.cons_ne_nil p [], hcovers⟩

/-- A node stands at a span that is not empty. -/
theorem Located.Stands.lt (h : n.Stands ps) : n.span.start < n.span.stop := by
  obtain ⟨part, hne, hcovers⟩ := h.covers
  exact hcovers.lt hne

/-- Nodes that are laid between two offsets leave them in order. -/
theorem Laid.le (h : Laid ps first last ns) : first ≤ last := by
  induction ns generalizing first with
  | nil => exact laid_nil.mp h
  | cons n ns ih =>
      obtain ⟨hn, hfirst, hns⟩ := laid_cons.mp h
      exact Nat.le_trans (Nat.le_trans hfirst (Nat.le_of_lt hn.lt)) (ih hns)

mutual

/-- A node stands where it does in a longer text as well. -/
theorem Located.Stands.append : ∀ {n : Located}, n.Stands ps → ∀ more, n.Stands (ps ++ more)
  | .text _ _, h, more => by
      obtain ⟨p, hcovers⟩ := Located.stands_text.mp h
      exact Located.stands_text.mpr ⟨p, hcovers.append more⟩
  | .element _ _ _ _, h, more => by
      obtain ⟨⟨part, hne, hcovers, hpart⟩, hchildren⟩ := Located.stands_element.mp h
      exact Located.stands_element.mpr
        ⟨⟨part, hne, hcovers.append more, hpart⟩, Laid.append_pieces hchildren more⟩

/-- The places stay when pieces are added behind. -/
theorem Laid.append_pieces : ∀ {ns : List Located} {first last : Nat}, Laid ps first last ns →
    ∀ more, Laid (ps ++ more) first last ns
  | [], _, _, h, _ => laid_nil.mpr (laid_nil.mp h)
  | _ :: _, _, _, h, more => by
      obtain ⟨hn, hfirst, hns⟩ := laid_cons.mp h
      exact laid_cons.mpr ⟨hn.append more, hfirst, Laid.append_pieces hns more⟩

end

theorem Laid.of_le (h : Laid ps mid last ns) (hle : first ≤ mid) : Laid ps first last ns := by
  cases ns with
  | nil => exact laid_nil.mpr (Nat.le_trans hle (laid_nil.mp h))
  | cons n ns =>
      obtain ⟨hn, hmid, hns⟩ := laid_cons.mp h
      exact laid_cons.mpr ⟨hn, Nat.le_trans hle hmid, hns⟩

/-- Nodes laid up to an offset and nodes laid from there on are laid as one list. -/
theorem Laid.append (hms : Laid ps first mid ms) (hns : Laid ps mid last ns) :
    Laid ps first last (ms ++ ns) := by
  induction ms generalizing first with
  | nil => exact hns.of_le (laid_nil.mp hms)
  | cons m ms ih =>
      obtain ⟨hm, hfirst, hms⟩ := laid_cons.mp hms
      exact laid_cons.mpr ⟨hm, hfirst, ih hms⟩

theorem Laid.to_le (h : Laid ps first mid ns) (hle : mid ≤ last) : Laid ps first last ns := by
  have := h.append (laid_nil.mpr hle)
  rwa [List.append_nil] at this

theorem laid_singleton :
    Laid ps first last [n] ↔ n.Stands ps ∧ first ≤ n.span.start ∧ n.span.stop ≤ last := by
  rw [laid_cons, laid_nil]

/-- The nodes stand between the two offsets. -/
theorem Laid.of_mem (h : Laid ps first last ns) :
    ∀ n ∈ ns, n.Stands ps ∧ first ≤ n.span.start ∧ n.span.stop ≤ last := by
  induction ns generalizing first with
  | nil => exact nofun
  | cons n ns ih =>
      obtain ⟨hn, hfirst, hns⟩ := laid_cons.mp h
      refine List.forall_mem_cons.mpr ⟨⟨hn, hfirst, hns.le⟩, fun m hm => ?_⟩
      obtain ⟨hstands, hstart, hstop⟩ := ih hns m hm
      exact ⟨hstands, Nat.le_trans (Nat.le_trans hfirst (Nat.le_of_lt hn.lt)) hstart, hstop⟩

/-- Some of the nodes stand between the two offsets as well. -/
theorem Laid.sublist (hsub : ms.Sublist ns) (h : Laid ps first last ns) :
    Laid ps first last ms := by
  induction hsub generalizing first with
  | slnil => exact h
  | cons n _ ih =>
      obtain ⟨hn, hfirst, hns⟩ := laid_cons.mp h
      exact (ih hns).of_le (Nat.le_trans hfirst (Nat.le_of_lt hn.lt))
  | cons_cons n _ ih =>
      obtain ⟨hn, hfirst, hns⟩ := laid_cons.mp h
      exact laid_cons.mpr ⟨hn, hfirst, ih hns⟩

/-- The nodes stand one behind the other. -/
theorem Laid.pairwise (h : Laid ps first last ns) :
    ns.Pairwise fun m n => m.span.stop ≤ n.span.start := by
  induction ns generalizing first with
  | nil => exact .nil
  | cons n ns ih =>
      obtain ⟨-, -, hns⟩ := laid_cons.mp h
      exact .cons (fun m hm => (hns.of_mem m hm).2.1) (ih hns)

/-! ### How far a tree has come -/

/-- The elements are open behind these pieces, the innermost first, and `top` is complete outside of
them. -/
inductive Nested (top : List Located) : List Piece → List LocatedElement → Prop where
  | outside {ps : List Piece} : Balanced ps → Laid ps 0 (extent ps) top → Nested top ps []
  | within {before inner : List Piece} {content : List Char} {e : LocatedElement}
      {outer : List LocatedElement} :
      Nested top before outer → Tag.name content = e.tag → isVoid e.tag = false →
      Balanced inner → e.span = ⟨extent before, extent (before ++ [.opening content])⟩ →
      Laid (before ++ .opening content :: inner) e.span.stop
        (extent (before ++ .opening content :: inner)) e.children →
      Nested top (before ++ .opening content :: inner) (e :: outer)

namespace Nesting

/-- The nesting is how far a tree has come with these pieces. -/
structure Traced (ps : List Piece) (n : Nesting) : Prop where
  /-- The bytes of the pieces are taken in. -/
  offset_eq : n.offset = extent ps
  /-- The elements and nodes stand where their pieces are. -/
  nested : Nested n.top ps n.opened

/-- The next piece ends where all pieces with it end. -/
theorem Traced.stop_eq {n : Nesting} (h : n.Traced ps) (p : Piece) :
    n.offset + byteLength p.source = extent (ps ++ [p]) := by
  rw [h.offset_eq, extent_append, extent_cons, extent_nil, Nat.add_zero]

/-- The next piece stands behind the others. -/
theorem Traced.span_eq {n : Nesting} (h : n.Traced ps) (p : Piece) :
    (⟨n.offset, n.offset + byteLength p.source⟩ : Span) = ⟨extent ps, extent (ps ++ [p])⟩ := by
  rw [h.stop_eq, h.offset_eq]

/-- Before the first piece there is no node and nothing open. -/
theorem traced_start : start.Traced [] := ⟨rfl, .outside .nil (laid_nil.mpr (Nat.le_refl _))⟩

/-- A text adds itself or nothing. -/
theorem appendText_eq_or (minify : Bool) (n : Nesting) (content : List Char) (span : Span) :
    n.appendText minify content span = n ∨
      ∃ kept, n.appendText minify content span = n.append (.text kept span) := by
  unfold appendText
  extract_lets kept
  split
  · exact .inl rfl
  · exact .inr ⟨_, rfl⟩

/-- An opening tag begins an element with its name and its span, and without children. -/
theorem openElement_eq_ok {content : List Char} {span : Span} {e : LocatedElement}
    (h : openElement content span = .ok e) :
    e.tag = Tag.name content ∧ e.children = [] ∧ e.span = span := by
  rw [openElement] at h
  split at h
  · cases h; exact ⟨rfl, rfl, rfl⟩
  · cases h

end Nesting

namespace Nested

open Nesting (openElement openElement_eq_ok extend_offset extend_nil_eq append_eq_extend)

variable {minify : Bool} {n m : Nesting} {p : Piece} (h : Nested n.top ps n.opened)

include h

/-- **Balanced pieces complete nodes** and leave open what was open. -/
theorem extend {part : List Piece} (hpart : Balanced part) {nodes : List Located}
    (hnodes : Laid (ps ++ part) (extent ps) (extent (ps ++ part)) nodes) :
    (n.extend nodes (extent (ps ++ part))).Traced (ps ++ part) := by
  obtain ⟨offset, unanswered, opened, top⟩ := n
  refine ⟨extend_offset _ _ _, ?_⟩
  cases h with
  | outside hps htop =>
      exact .outside (hps.append hpart) ((htop.append_pieces part).append hnodes)
  | within houter hname hvoid hinner hspan hchildren =>
      rename_i before inner content e outer
      have hassoc : before ++ Piece.opening content :: inner ++ part =
          before ++ Piece.opening content :: (inner ++ part) := by simp
      have hall := (hchildren.append_pieces part).append hnodes
      rw [hassoc] at hall ⊢
      exact .within houter hname hvoid (hinner.append hpart) hspan hall

/-- A piece of no account. -/
theorem skip (hp : p.Neutral) :
    Nesting.Traced (ps ++ [p]) { n with offset := extent (ps ++ [p]) } := by
  have hnone : Laid (ps ++ [p]) (extent ps) (extent (ps ++ [p])) [] :=
    laid_nil.mpr (by rw [extent_append]; exact Nat.le_add_right _ _)
  have hextend := h.extend (.neutral hp) hnone
  rwa [extend_nil_eq] at hextend

/-- A piece that is a node of its own. -/
theorem append (hp : p.Neutral) {node : Located}
    (hspan : node.span = ⟨extent ps, extent (ps ++ [p])⟩) (hnode : node.Stands (ps ++ [p])) :
    Nesting.Traced (ps ++ [p]) { n.append node with offset := extent (ps ++ [p]) } := by
  rw [append_eq_extend]
  refine h.extend (.neutral hp) (laid_singleton.mpr ⟨hnode, ?_⟩)
  rw [hspan]
  exact ⟨Nat.le_refl _, Nat.le_refl _⟩

/-- A piece with a text adds the text where the piece stands. -/
theorem appendText (hp : p.Neutral) (content : List Char) :
    Nesting.Traced (ps ++ [p])
      { n.appendText minify content ⟨extent ps, extent (ps ++ [p])⟩ with
        offset := extent (ps ++ [p]) } := by
  rcases n.appendText_eq_or minify content ⟨extent ps, extent (ps ++ [p])⟩ with
    hnone | ⟨kept, hkept⟩
  · rw [hnone]; exact h.skip hp
  · rw [hkept]; exact h.append hp rfl (Located.stands_text.mpr ⟨p, covers_end ps [p]⟩)

/-- A tag that is an element of its own. -/
theorem append_tag (hp : p.Neutral) {tag : String}
    (hpart : isVoid tag = true ∨ ElementOf tag [p]) (attributes : Attributes) :
    Nesting.Traced (ps ++ [p])
      { n.append (.element tag attributes [] ⟨extent ps, extent (ps ++ [p])⟩) with
        offset := extent (ps ++ [p]) } := by
  have hcovers := covers_end ps [p]
  have hne : [p] ≠ [] := List.cons_ne_nil p []
  refine h.append hp rfl (Located.stands_element.mpr ⟨⟨[p], hne, hcovers, hpart⟩, ?_⟩)
  exact laid_nil.mpr (Nat.le_of_lt (hcovers.lt hne))

/-- An opening tag opens an element that begins with it, or adds one that may have no content. -/
theorem openTag {content : List Char}
    (hm : n.openTag content ⟨extent ps, extent (ps ++ [.opening content])⟩ = .ok m) :
    Nesting.Traced (ps ++ [.opening content])
      { m with offset := extent (ps ++ [.opening content]) } := by
  rw [Nesting.openTag] at hm
  cases he : openElement content ⟨extent ps, extent (ps ++ [.opening content])⟩ with
  | error fault => rw [he] at hm; cases hm
  | ok e =>
      obtain ⟨htag, hchildren, hspan⟩ := openElement_eq_ok he
      rw [he] at hm
      simp only [bind, Except.bind, pure, Except.pure] at hm
      split at hm
      · rename_i hvoid
        cases hm
        rw [htag] at hvoid ⊢
        exact append_tag (n := { n with unanswered := n.unanswered + 1 }) h
          (p := .opening content) hvoid (.inl hvoid) e.attributes
      · rename_i hvoid
        cases hm
        refine ⟨rfl, @Nested.within _ ps [] content e _ h htag.symm (by simpa using hvoid) .nil
          hspan ?_⟩
        rw [hchildren, hspan]
        exact laid_nil.mpr (Nat.le_refl _)

/-- A tag that closes itself adds an element that stands at it. -/
theorem selfClose {content : List Char}
    (hm : n.selfClose content ⟨extent ps, extent (ps ++ [.selfClosing content])⟩ = .ok m) :
    Nesting.Traced (ps ++ [.selfClosing content])
      { m with offset := extent (ps ++ [.selfClosing content]) } := by
  rw [Nesting.selfClose] at hm
  cases he : openElement content ⟨extent ps, extent (ps ++ [.selfClosing content])⟩ with
  | error fault => rw [he] at hm; cases hm
  | ok e =>
      obtain ⟨htag, -, -⟩ := openElement_eq_ok he
      rw [he] at hm
      cases hm
      exact h.append_tag (p := .selfClosing content) trivial (.inr (.selfClosing htag.symm))
        e.attributes

/-- A closing tag ends the innermost element, whose pieces then are those from its opening tag up to
here. -/
theorem close {content : List Char}
    (hm : n.close (closingName content) ⟨extent ps, extent (ps ++ [.closing content])⟩ = .ok m) :
    Nesting.Traced (ps ++ [.closing content])
      { m with offset := extent (ps ++ [.closing content]) } := by
  obtain ⟨offset, unanswered, opened, top⟩ := n
  cases h with
  | outside => cases hm
  | within houter hname hvoid hinner hspan hchildren =>
      rename_i before inner opening e outer
      simp only [Nesting.close] at hm
      split at hm
      · rename_i htag
        cases hm
        -- the element is its opening tag, what is behind it, and this closing tag
        let part := Piece.opening opening :: inner ++ [.closing content]
        have hassoc : before ++ Piece.opening opening :: inner ++ [.closing content] =
            before ++ part := by simp [part]
        have hbalanced : Balanced part :=
          .enclosed (by rw [hname]; exact hvoid) (by rw [hname, htag]) hinner
        have hlaid :
            Laid (before ++ part) (extent before) (extent (before ++ part)) e.children := by
          rw [← hassoc]
          refine ((hchildren.append_pieces _).to_le ?_).of_le ?_
          · rw [extent_append (before ++ _)]; exact Nat.le_add_right _ _
          · rw [hspan]; simp only [extent_append]; exact Nat.le_add_right _ _
        have hnode : Laid (before ++ part) (extent before) (extent (before ++ part))
            [.element e.tag e.attributes e.children ⟨extent before, extent (before ++ part)⟩] :=
          laid_singleton.mpr ⟨Located.stands_element.mpr ⟨⟨part, List.cons_ne_nil _ _,
            covers_end before part, .inr (.enclosed hname htag.symm hinner)⟩, hlaid⟩,
            Nat.le_refl _, Nat.le_refl _⟩
        have houter : Nested (Nesting.mk offset unanswered outer top).top before
          (Nesting.mk offset unanswered outer top).opened := houter
        rw [hassoc, hspan, append_eq_extend]
        exact houter.extend hbalanced hnode
      · cases hm

theorem closeTag {content : List Char}
    (hm : n.closeTag content ⟨extent ps, extent (ps ++ [.closing content])⟩ = .ok m) :
    Nesting.Traced (ps ++ [.closing content])
      { m with offset := extent (ps ++ [.closing content]) } := by
  rw [Nesting.closeTag] at hm
  split at hm
  · cases hm
  · rename_i k _
    split at hm
    · rename_i hvoid
      cases hm
      exact skip (n := { n with unanswered := k }) h (p := .closing content) hvoid
    · exact close (n := { n with unanswered := k }) h hm

end Nested

namespace Nesting

variable {minify : Bool} {n m : Nesting}

/-- **One piece more.** -/
theorem Traced.step (h : n.Traced ps) {p : Piece} (hm : n.step minify p = .ok m) :
    m.Traced (ps ++ [p]) := by
  obtain ⟨n', htake, rfl⟩ := exists_take_of_step hm
  rw [h.span_eq] at htake
  rw [h.stop_eq]
  cases p with
  | text first rest =>
      rw [take] at htake
      split at htake
      · cases htake; exact h.nested.appendText (p := .text first rest) trivial _
      · cases htake
  | characterData content =>
      cases htake; exact h.nested.appendText (p := .characterData content) trivial content
  | opening content => exact h.nested.openTag htake
  | selfClosing content => exact h.nested.selfClose htake
  | closing content => exact h.nested.closeTag htake
  | comment _ => cases htake; exact h.nested.skip trivial
  | instruction _ => cases htake; exact h.nested.skip trivial
  | documentType _ _ => cases htake; exact h.nested.skip trivial

/-- **What the pieces of a text are read as** stands where they are. -/
theorem Traced.foldlM (h : n.Traced ps) (hm : qs.foldlM (Nesting.step minify) n = .ok m) :
    m.Traced (ps ++ qs) := by
  induction qs generalizing n ps with
  | nil => cases hm; rwa [List.append_nil]
  | cons p qs ih =>
      rw [List.foldlM_cons] at hm
      cases hstep : n.step minify p with
      | error e => rw [hstep] at hm; cases hm
      | ok n₁ =>
          rw [hstep] at hm
          have := ih (h.step hstep) hm
          rwa [List.append_assoc] at this

end Nesting

/-- **A tree that is read stands in its text.** -/
theorem laid_of_readTree {minify : Bool} {cs : List Char} {tree : List Located}
    (h : readTree minify cs = .ok tree) :
    ∃ ps, pieces (dropMark cs) = (ps, none) ∧ Laid ps 0 (extent ps) tree := by
  obtain ⟨ps, n, hpieces, hn, hopened, rfl⟩ := exists_pieces_of_readTree h
  have htraced : n.Traced ps := Nesting.traced_start.foldlM hn
  have hnested := htraced.nested
  rw [hopened] at hnested
  cases hnested with
  | outside _ htop => exact ⟨ps, hpieces, htop⟩

end MarkupTemplates.Markup
