import Mathlib
import MarkupTemplates.Proofs.Markup.Answered
import MarkupTemplates.Proofs.Markup.RoundTrip
import MarkupTemplates.Proofs.Markup.Seams
import MarkupTemplates.Proofs.Template.Relocated

/-!
# Closing tags of elements without content

The closing tag of an element that never has content closes nothing, so it may stand anywhere; yet
it uses up an opening tag, as each closing tag does.  Put into a source that is accepted, between
two of its pieces, it leaves the templates as they are if the pieces are answered with it, and makes
the source refused if they are not (`readTemplates_insert_closing`).

The argument reads the new text from the place on with one opening tag more before it than there is:
then nothing is refused, and the rest of the text is read to the same tree at other places
(`foldlM_closing_cons`).  How many opening tags there really are decides only about refusals.
-/

namespace MarkupTemplates.Markup

open Text (Span Relocation byteLength)

theorem Seam.pieces_insert_closing {before after : List Char} {ps qs : List Piece} {tag : String}
    (h : Seam before after ps qs) (hname : isName tag = true) :
    pieces (dropMark (before ++ ((Piece.closing tag.toList).source ++ after))) =
      (ps ++ .closing tag.toList :: qs, none) :=
  h.pieces_insert rfl (by simpa using read_closing hname after)

/-- The closing tag of an element without content, read with one opening tag more before it, moves
what comes after it. -/
theorem foldlM_closing_cons {minify : Bool} {qs : List Piece} {tag : String} {n m : Nesting}
    {r : Relocation} (hvoid : isVoid tag = true)
    (hm : qs.foldlM (Nesting.step minify) n = .ok m) (hbefore : n.relocate r 0 = n)
    (hafter : r.Moves n.offset m.offset (byteLength (Piece.closing tag.toList).source)) :
    (.closing tag.toList :: qs).foldlM (Nesting.step minify) (n.owing (n.unanswered + 1)) =
      .ok (m.relocate r (byteLength (Piece.closing tag.toList).source)) := by
  let size := byteLength (Piece.closing tag.toList).source
  have hmoved : { n with offset := n.offset + size } = n.relocate r size := by
    conv_lhs => rw [← hbefore]
    rfl
  have hclosing : (n.owing (n.unanswered + 1)).step minify (.closing tag.toList) =
      .ok { n with offset := n.offset + size } :=
    step_closing_of_isVoid (isName_of_isVoid hvoid) hvoid rfl
  rw [List.foldlM_cons, hclosing, hmoved]
  exact Nesting.foldlM_relocate hm hafter

/-- **A text with the closing tag of an element without content put into it** has the same tree, or
is refused because a closing tag answers no opening tag. -/
theorem readTree_insert_closing {minify : Bool} {before after : List Char} {ps qs : List Piece}
    {tag : String} {tree : List Located} (hvoid : isVoid tag = true)
    (hseam : Seam before after ps qs) (htree : readTree minify (before ++ after) = .ok tree) :
    let closing := Piece.closing tag.toList
    let text := before ++ (closing.source ++ after)
    (Answered 0 (ps ++ closing :: qs) →
      readTree minify text = .ok (Located.relocateAll
        (.insertion (byteLength (dropMark before)) (byteLength closing.source)) tree)) ∧
    (¬ Answered 0 (ps ++ closing :: qs) →
      ∃ span name, readTree minify text = .error ⟨span, .unanswering name⟩) := by
  intro closing text
  let place := byteLength (dropMark before)
  let size := byteLength closing.source
  let r := Relocation.insertion place size
  obtain ⟨n, m, hn, hm, hfinish⟩ := exists_foldlM_of_readTree htree hseam.pieces_eq
  obtain ⟨hps, hspare⟩ := Nesting.answered_of_foldlM hn
  have hplace : n.offset = place := by
    rw [Nesting.offset_of_foldlM hn, ← hseam.before_eq]
    exact Nat.zero_add _
  have hbefore : n.relocate r 0 = n :=
    Nesting.relocate_eq_self hn (by rw [hplace]; exact Relocation.moves_before place size)
  have hafter : r.Moves n.offset m.offset size := by
    rw [hplace]; exact Relocation.moves_after place size m.offset
  have hmore := foldlM_closing_cons hvoid hm hbefore hafter
  have hanswered : Answered 0 (ps ++ closing :: qs) ↔ Answered n.unanswered (closing :: qs) := by
    rw [answered_append, hspare]
    exact and_iff_right hps
  have htext : readTree minify text =
      ((closing :: qs).foldlM (Nesting.step minify) n >>= Nesting.finish) := by
    rw [readTree_of_pieces (hseam.pieces_insert_closing (isName_of_isVoid hvoid)),
      List.foldlM_append, hn]
    rfl
  rw [hanswered, htext]
  constructor
  · intro hall
    obtain ⟨w, hread⟩ := Nesting.foldlM_owing hmore hall
    have hmoved : (m.relocate r size).finish = .ok (Located.relocateAll r tree) :=
      Nesting.finish_relocate hfinish
    exact (congrArg (· >>= Nesting.finish) hread).trans hmoved
  · intro hnot
    obtain ⟨span, name, herror⟩ := Nesting.foldlM_owing_error hmore hnot
    exact ⟨span, name, congrArg (· >>= Nesting.finish) herror⟩

end MarkupTemplates.Markup

namespace MarkupTemplates

open Markup (Piece Seam Answered isVoid dropMark)
open Text (Relocation byteLength)

/-- **The closing tag of an element without content closes nothing, but answers an opening tag.**
Put between two pieces of a source that is accepted, it leaves the templates as they are, at the
places to which it moves them, if no place of the new text has more closing tags before it than
opening tags; otherwise the new source is refused because of a closing tag. -/
theorem readTemplates_insert_closing {minify : Bool} {name before after tag : String}
    {ps qs : List Piece} {ts : List Template} (hvoid : isVoid tag = true)
    (hseam : Seam before.toList after.toList ps qs)
    (hts : readTemplates minify name (before ++ after) = .ok ts) :
    let closing := "</" ++ tag ++ ">"
    let source := before ++ closing ++ after
    (Answered 0 (ps ++ .closing tag.toList :: qs) →
      readTemplates minify name source = .ok (ts.map (Template.relocate
        (.insertion (byteLength (dropMark before.toList)) (byteLength closing.toList))))) ∧
    (¬ Answered 0 (ps ++ .closing tag.toList :: qs) →
      ∃ span other, readTemplates minify name source =
        .error [.markup span (Markup.NestingFault.unanswering other).message]) := by
  intro closing source
  have hclosing : closing.toList = (Piece.closing tag.toList).source := by
    simp [closing, Piece.source]
  have hsource : source.toList =
      before.toList ++ ((Piece.closing tag.toList).source ++ after.toList) := by
    rw [← hclosing]
    simp [source]
  obtain ⟨tree, -, htree, -⟩ := readTemplates_eq_ok_iff.mp hts
  rw [hclosing]
  obtain ⟨hread, hrefuse⟩ :=
    Markup.readTree_insert_closing hvoid hseam (String.toList_append ▸ htree)
  rw [← hsource] at hread hrefuse
  refine ⟨fun hall => readTemplates_of_relocate htree (hread hall) hts, fun hnot => ?_⟩
  obtain ⟨span, other, herror⟩ := hrefuse hnot
  exact ⟨span, other, by rw [readTemplates, herror]; rfl⟩

/-- An opening tag that is left to be answered. -/
theorem readTemplates_insert_closing_img :
    Seam "<template id=\"t\"><br>x".toList "</template>".toList
      [.opening "template id=\"t\"".toList, .opening "br".toList, .text 'x' []]
      [.closing "template".toList] ∧
    readTemplates true "a.html" ("<template id=\"t\"><br>x" ++ "</template>") =
      .ok [⟨"t", .root [.element "br" ⟨[]⟩ [], .text "x"], ⟨"a.html", ⟨0, 33⟩⟩⟩] ∧
    readTemplates true "a.html"
        ("<template id=\"t\"><br>x" ++ ("</" ++ "img" ++ ">") ++ "</template>") =
      .ok [⟨"t", .root [.element "br" ⟨[]⟩ [], .text "x"], ⟨"a.html", ⟨0, 39⟩⟩⟩] := by
  have hseam : Seam "<template id=\"t\"><br>x".toList "</template>".toList
      [.opening "template id=\"t\"".toList, .opening "br".toList, .text 'x' []]
      [.closing "template".toList] := ⟨by cbv, by decide, by decide⟩
  have hts : readTemplates true "a.html" ("<template id=\"t\"><br>x" ++ "</template>") =
      .ok [⟨"t", .root [.element "br" ⟨[]⟩ [], .text "x"], ⟨"a.html", ⟨0, 33⟩⟩⟩] := by cbv
  have hvoid : isVoid "img" = true := by decide +kernel
  refine ⟨hseam, hts, ?_⟩
  exact (readTemplates_insert_closing hvoid hseam hts).1 (by decide)

/-- The closing tag of an element without content takes the opening tag of the template, so that the
closing tag of the template is refused. -/
theorem readTemplates_closing_refused :
    isVoid "br" = true ∧
    Seam "<template id=\"t\">".toList "</template>".toList
      [.opening "template id=\"t\"".toList] [.closing "template".toList] ∧
    readTemplates true "a.html" ("<template id=\"t\">" ++ "</template>") =
      .ok [⟨"t", .root [], ⟨"a.html", ⟨0, 28⟩⟩⟩] ∧
    readTemplates true "a.html" ("<template id=\"t\">" ++ ("</" ++ "br" ++ ">") ++ "</template>") =
      .error [.markup ⟨22, 23⟩ (Markup.NestingFault.unanswering "template").message] := by
  refine ⟨by decide +kernel, ⟨by cbv, by decide, by decide⟩, by cbv, ?_⟩
  have hread : Markup.readTree true
      ("<template id=\"t\">" ++ ("</" ++ "br" ++ ">") ++ "</template>").toList =
        .error ⟨⟨22, 23⟩, .unanswering "template"⟩ := by cbv
  rw [readTemplates, hread]
  rfl

end MarkupTemplates
