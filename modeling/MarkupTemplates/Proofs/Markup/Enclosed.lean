import MarkupTemplates.Proofs.Markup.Reading
import MarkupTemplates.Proofs.Tracks

/-!
# Markup within other markup

Pieces that are read for themselves are read within open elements and behind other nodes as well,
and add the same there (`Nesting.tracks_take_enclosing`, `Nesting.foldlM_enclosing`): the tree they
are read into is put into the one that has come before (`Nesting.enclosing`).  Only a closing tag
that answers nothing for itself may answer something there.  Where no element is open and no tag is
left to be answered, even this makes no difference, so that what comes before can be taken away
(`Nesting.exists_of_foldlM_enclosing`).
-/

namespace MarkupTemplates.Markup

open Text (Span byteLength)

namespace Nesting

/-- The tree with its nodes put into an outer one, behind what is complete there. -/
def enclosing (f n : Nesting) : Nesting :=
  let outer := f.extend n.top n.offset
  ⟨n.offset, f.unanswered + n.unanswered, n.opened ++ outer.opened, outer.top⟩

variable {minify : Bool} (f n : Nesting)

/-- A node is added inside another tree as it is for itself. -/
theorem enclosing_append (node : Located) :
    f.enclosing (n.append node) = (f.enclosing n).append node := by
  obtain ⟨fOffset, fUnanswered, fOpened, fTop⟩ := f
  obtain ⟨offset, unanswered, opened, top⟩ := n
  cases opened with
  | cons e outer => rfl
  | nil =>
      cases fOpened with
      | nil => simp [append, enclosing, extend]
      | cons e outer => simp [append, enclosing, extend]

theorem enclosing_appendText (content : List Char) (span : Span) :
    f.enclosing (n.appendText minify content span) =
      (f.enclosing n).appendText minify content span := by
  unfold appendText
  extract_lets kept
  split
  · rfl
  · exact enclosing_append f n _

/-- What an outer tree lets a closing tag do that it cannot do alone: close an open element, or
answer an opening tag. -/
abbrev Opens (f : Nesting) : NestingError → Prop := fun _ => f.opened ≠ [] ∨ f.unanswered ≠ 0

/-- An opening tag opens the same element inside another tree. -/
theorem tracks_openTag_enclosing (content : List Char) (span : Span) :
    Tracks f.Opens f.enclosing (n.openTag content span) ((f.enclosing n).openTag content span) := by
  refine .bind_same fun e => ?_
  extract_lets n₁ n₂
  split
  · exact .of_eq (congrArg Except.ok (enclosing_append f n₁ _).symm)
  · exact .ok { n₁ with opened := e :: n₁.opened }

theorem tracks_selfClose_enclosing (content : List Char) (span : Span) :
    Tracks f.Opens f.enclosing (n.selfClose content span)
      ((f.enclosing n).selfClose content span) :=
  .bind_same fun _ => .of_eq (congrArg Except.ok (enclosing_append f n _).symm)

/-- The same element is closed inside another tree, unless the tag would close one of that tree. -/
theorem tracks_close_enclosing (name : String) (span : Span) :
    Tracks f.Opens f.enclosing (n.close name span) ((f.enclosing n).close name span) := by
  obtain ⟨offset, unanswered, opened, top⟩ := n
  cases opened with
  | cons e outer =>
      rw [close, close]
      change Tracks _ _ (if e.tag = name then _ else _) (if e.tag = name then _ else _)
      split
      · exact .of_eq (congrArg Except.ok
          (enclosing_append f ⟨offset, unanswered, outer, top⟩ _).symm)
      · exact .error _
  | nil =>
      by_cases hf : f.opened = []
      · have hopened : (f.enclosing ⟨offset, unanswered, [], top⟩).opened = [] := by
          simp [enclosing, extend, hf]
        rw [close, close, hopened]
        exact .error _
      · exact .excused (.inl hf)

/-- A closing tag closes the same element inside another tree, unless it would close one of that
tree. -/
theorem tracks_closeTag_enclosing (content : List Char) (span : Span) :
    Tracks f.Opens f.enclosing (n.closeTag content span)
      ((f.enclosing n).closeTag content span) := by
  obtain ⟨offset, unanswered, opened, top⟩ := n
  cases unanswered with
  | zero =>
      by_cases hf : f.unanswered = 0
      · have hnone : (f.enclosing ⟨offset, 0, opened, top⟩).unanswered = 0 := hf
        rw [closeTag, closeTag, hnone]
        exact .error _
      · exact .excused (.inr hf)
  | succ k =>
      change Tracks _ _ (if isVoid (closingName content) then _ else _)
        (if isVoid (closingName content) then _ else _)
      split
      · exact .ok (Nesting.mk offset k opened top)
      · exact tracks_close_enclosing f ⟨offset, k, opened, top⟩ _ span

/-- **One piece inside another tree** adds the same there. -/
theorem tracks_take_enclosing (span : Span) (p : Piece) :
    Tracks f.Opens f.enclosing (n.take minify span p) ((f.enclosing n).take minify span p) := by
  cases p with
  | text first rest =>
      rw [take, take]
      split
      · exact .of_eq (congrArg Except.ok (enclosing_appendText f n _ span).symm)
      · exact .error _
  | characterData content =>
      exact .of_eq (congrArg Except.ok (enclosing_appendText f n content span).symm)
  | opening content => exact tracks_openTag_enclosing f n content span
  | selfClosing content => exact tracks_selfClose_enclosing f n content span
  | closing content => exact tracks_closeTag_enclosing f n content span
  | comment _ => exact .ok n
  | instruction _ => exact .ok n
  | documentType _ _ => exact .ok n

theorem enclosing_offset (stop : Nat) :
    f.enclosing { n with offset := stop } = { f.enclosing n with offset := stop } := by
  obtain ⟨fOffset, fUnanswered, fOpened, fTop⟩ := f
  cases fOpened with
  | nil => rfl
  | cons e outer => rfl

/-- One step of reading does the same inside another tree. -/
theorem tracks_step_enclosing (p : Piece) :
    Tracks f.Opens f.enclosing (n.step minify p) ((f.enclosing n).step minify p) :=
  (tracks_take_enclosing f n _ p).bind fun m _ =>
    .of_eq (congrArg Except.ok (enclosing_offset f m _).symm)

/-- Pieces do the same inside another tree, up to one that would close an element of that tree. -/
theorem tracks_foldlM_enclosing (ps : List Piece) :
    Tracks f.Opens f.enclosing (ps.foldlM (step minify) n)
      (ps.foldlM (step minify) (f.enclosing n)) := by
  have hstep : ∀ p ∈ ps, ∀ m, Tracks f.Opens f.enclosing (step minify m p)
      (step minify (f.enclosing m) (id p)) := fun p _ m => tracks_step_enclosing f m p
  have htracks := (Tracks.foldlM hstep n).mono fun _ _ ⟨_, _, _, hopens⟩ => hopens
  rwa [List.map_id] at htracks

variable {f n}

/-- **Pieces that are read are read inside every other tree**, to the same nodes. -/
theorem foldlM_enclosing {ps : List Piece} {m : Nesting} (h : ps.foldlM (step minify) n = .ok m) :
    ps.foldlM (step minify) (f.enclosing n) = .ok (f.enclosing m) :=
  (tracks_foldlM_enclosing f n ps).of_ok h

/-- **Pieces that are read behind other nodes are read for themselves**, where no element is
open. -/
theorem exists_of_foldlM_enclosing {ps : List Piece} {m : Nesting} (hopened : f.opened = [])
    (hunanswered : f.unanswered = 0) (h : ps.foldlM (step minify) (f.enclosing n) = .ok m) :
    ∃ m', ps.foldlM (step minify) n = .ok m' ∧ m = f.enclosing m' := by
  rcases @tracks_foldlM_enclosing minify f n ps with heq | ⟨_, _, hexcuse⟩
  · rw [h] at heq
    cases hn : ps.foldlM (step minify) n with
    | error e => rw [hn] at heq; cases heq
    | ok m' => rw [hn] at heq; cases heq; exact ⟨m', rfl, rfl⟩
  · exact absurd hexcuse (by simp [hopened, hunanswered])

end Nesting

end MarkupTemplates.Markup
