import MarkupTemplates.Proofs.Markup.Reading
import MarkupTemplates.Proofs.Tracks

/-!
# Markup at another place

A piece of markup that stands at another place of a text is read as the same nodes, with other
places.  A `Relocation` says where spans come to lie; it may tear them apart, as when something is
put into the text between their ends.  Reading on from a relocated tree gives the relocated tree,
step by step (`Nesting.tracks_take`) and to the end of a row of pieces that are all moved by the
same distance (`Nesting.foldlM_relocate`).
-/

namespace MarkupTemplates

open Text (Span byteLength)

/-- Where the ends of spans come to lie. -/
structure Text.Relocation where
  /-- Where the byte comes to lie with which a span begins. -/
  start : Nat → Nat
  /-- Where the byte comes to lie before which a span stops. -/
  stop : Nat → Nat

/-- The span between the places of its ends. -/
def Text.Span.relocate (r : Text.Relocation) (s : Span) : Span := ⟨r.start s.start, r.stop s.stop⟩

namespace Text.Relocation

/-- What becomes of a text when `size` bytes are put in at the byte offset `place`. -/
def insertion (place size : Nat) : Relocation where
  start k := if k < place then k else k + size
  stop k := if k ≤ place then k else k + size

/-- What becomes of a text when `size` bytes are put before it. -/
def shift (size : Nat) : Relocation := ⟨(· + size), (· + size)⟩

/-- The spans between two offsets are moved by a distance. -/
def Moves (r : Relocation) (first last distance : Nat) : Prop :=
  ∀ k l, first ≤ k → k < l → l ≤ last →
    Span.relocate r ⟨k, l⟩ = ⟨k + distance, l + distance⟩

/-- What moves places by a distance does so within a smaller part of the text. -/
theorem Moves.mono {r : Relocation} {first last distance : Nat} (h : r.Moves first last distance)
    {first' last' : Nat} (hfirst : first ≤ first') (hlast : last' ≤ last) :
    r.Moves first' last' distance :=
  fun k l hk hkl hl => h k l (Nat.le_trans hfirst hk) hkl (Nat.le_trans hl hlast)

/-- An insertion leaves the places before it where they are. -/
theorem moves_before (place size : Nat) : (insertion place size).Moves 0 place 0 := by
  intro k l _ hkl hl
  have hk : k < place := by omega
  simp only [Span.relocate, insertion, if_pos hk, if_pos hl, Nat.add_zero]

/-- An insertion moves the places behind it by its size. -/
theorem moves_after (place size last : Nat) : (insertion place size).Moves place last size := by
  intro k l hk hkl _
  have hk : ¬ k < place := by omega
  have hl : ¬ l ≤ place := by omega
  simp only [Span.relocate, insertion, if_neg hk, if_neg hl]

/-- A shift moves all places by its size. -/
theorem moves_shift (size first last : Nat) : (shift size).Moves first last size :=
  fun _ _ _ _ _ => rfl

end Text.Relocation

namespace Markup

open Text (Relocation)

mutual

/-- The node at another place. -/
def Located.relocate (r : Relocation) : Located → Located
  | .element tag attributes children span =>
    .element tag attributes (Located.relocateAll r children) (span.relocate r)
  | .text content span => .text content (span.relocate r)

/-- The nodes at another place. -/
def Located.relocateAll (r : Relocation) : List Located → List Located
  | [] => []
  | n :: ns => n.relocate r :: Located.relocateAll r ns

end

/-- The element at another place. -/
def LocatedElement.relocate (r : Relocation) (e : LocatedElement) : LocatedElement :=
  { e with children := Located.relocateAll r e.children, span := e.span.relocate r }

section

variable (r : Relocation)

theorem Located.relocateAll_eq_map (ns : List Located) :
    relocateAll r ns = ns.map (relocate r) := by
  induction ns with
  | nil => rfl
  | cons n ns ih => rw [relocateAll, ih, List.map_cons]

theorem Located.relocateAll_append (ms ns : List Located) :
    relocateAll r (ms ++ ns) = relocateAll r ms ++ relocateAll r ns := by
  simp only [relocateAll_eq_map, List.map_append]

mutual

/-- A node that is moved is the same node if its places are forgotten. -/
theorem Located.node_relocate : ∀ n : Located, (n.relocate r).node = n.node
  | .element tag attributes children span => by
      rw [Located.relocate, Located.node, Located.node, nodesOf_relocateAll children]
  | .text content span => by rw [Located.relocate, Located.node, Located.node]

/-- Nothing changes but the places. -/
theorem nodesOf_relocateAll : ∀ ns : List Located, nodesOf (Located.relocateAll r ns) = nodesOf ns
  | [] => rfl
  | n :: ns => by
      rw [Located.relocateAll, nodesOf, nodesOf, Located.node_relocate n, nodesOf_relocateAll ns]

end

end

namespace Nesting

variable {minify : Bool} (r : Relocation) (distance : Nat)

/-- The nesting at another place, the pieces that come next being moved by a distance. -/
def relocate (n : Nesting) : Nesting :=
  ⟨n.offset + distance, n.unanswered, n.opened.map (·.relocate r), Located.relocateAll r n.top⟩

variable (n : Nesting)

/-- A node that is added and moved is added where all is moved. -/
theorem relocate_append (node : Located) :
    (n.append node).relocate r distance = (n.relocate r distance).append (node.relocate r) := by
  obtain ⟨offset, unanswered, opened, top⟩ := n
  cases opened with
  | nil => simp [append, relocate, Located.relocateAll_append, Located.relocateAll]
  | cons e outer =>
      simp [append, relocate, LocatedElement.relocate, Located.relocateAll_append,
        Located.relocateAll]

theorem relocate_append_element (tag : String) (attributes : Attributes) (children : List Located)
    (span : Span) : (n.append (.element tag attributes children span)).relocate r distance =
      (n.relocate r distance).append
        (.element tag attributes (Located.relocateAll r children) (span.relocate r)) := by
  rw [relocate_append, Located.relocate]

/-- A text joins the one before it, moved or not, with a span that goes on. -/
theorem relocate_appendText (content : List Char) (span : Span) :
    (n.appendText minify content span).relocate r distance =
      (n.relocate r distance).appendText minify content (span.relocate r) := by
  unfold appendText
  extract_lets kept
  split
  · rfl
  · rw [relocate_append, Located.relocate]

/-- The element that an opening tag begins is the same elsewhere. -/
theorem tracks_openElement (content : List Char) (span : Span) :
    Carries (LocatedElement.relocate r) (openElement content span)
      (openElement content (span.relocate r)) := by
  rw [openElement, openElement]
  split
  · exact .ok _
  · exact .excused trivial

/-- An opening tag opens the same element elsewhere. -/
theorem tracks_openTag (content : List Char) (span : Span) :
    Carries (relocate r distance) (n.openTag content span)
      ((n.relocate r distance).openTag content (span.relocate r)) := by
  refine (tracks_openElement r content span).bind fun e _ => ?_
  extract_lets n₁ n₂
  rw [show (e.relocate r).tag = e.tag from rfl]
  split
  · exact .of_eq (congrArg Except.ok
      (relocate_append_element r distance n₁ e.tag e.attributes [] span).symm)
  · exact .ok { n₁ with opened := e :: n₁.opened }

theorem tracks_selfClose (content : List Char) (span : Span) :
    Carries (relocate r distance) (n.selfClose content span)
      ((n.relocate r distance).selfClose content (span.relocate r)) := by
  refine (tracks_openElement r content span).bind fun e _ => ?_
  exact .of_eq (congrArg Except.ok
    (relocate_append_element r distance n e.tag e.attributes [] span).symm)

/-- An element that is closed ends at the moved end of its closing tag. -/
theorem tracks_close (name : String) (span : Span) :
    Carries (relocate r distance) (n.close name span)
      ((n.relocate r distance).close name (span.relocate r)) := by
  obtain ⟨offset, unanswered, opened, top⟩ := n
  cases opened with
  | nil => exact .excused trivial
  | cons e outer =>
      simp only [close, relocate, List.map_cons]
      rw [show (e.relocate r).tag = e.tag from rfl]
      split
      · exact .of_eq (congrArg Except.ok (relocate_append_element r distance
          ⟨offset, unanswered, outer, top⟩ e.tag e.attributes e.children
          ⟨e.span.start, span.stop⟩).symm)
      · exact .excused trivial

/-- A closing tag closes the same element elsewhere, or nothing there either. -/
theorem tracks_closeTag (content : List Char) (span : Span) :
    Carries (relocate r distance) (n.closeTag content span)
      ((n.relocate r distance).closeTag content (span.relocate r)) := by
  obtain ⟨offset, unanswered, opened, top⟩ := n
  cases unanswered with
  | zero => exact .excused trivial
  | succ k =>
      simp only [closeTag, relocate]
      split
      · exact .ok (Nesting.mk offset k opened top)
      · exact tracks_close r distance ⟨offset, k, opened, top⟩ _ span

/-- **One piece at another place** adds the same to a tree, with other places. -/
theorem tracks_take (span : Span) (p : Piece) :
    Carries (relocate r distance) (n.take minify span p)
      ((n.relocate r distance).take minify (span.relocate r) p) := by
  cases p with
  | text first rest =>
      rw [take, take]
      split
      · exact .of_eq (congrArg Except.ok (relocate_appendText r distance n _ span).symm)
      · exact .excused trivial
  | characterData content =>
      exact .of_eq (congrArg Except.ok (relocate_appendText r distance n content span).symm)
  | opening content => exact tracks_openTag r distance n content span
  | selfClosing content => exact tracks_selfClose r distance n content span
  | closing content => exact tracks_closeTag r distance n content span
  | comment _ => exact .ok n
  | instruction _ => exact .ok n
  | documentType _ _ => exact .ok n

/-! ### Rows of pieces -/

variable {n}

/-- A piece takes the offset on by its size in bytes. -/
theorem offset_of_step {m : Nesting} {p : Piece} (h : n.step minify p = .ok m) :
    m.offset = n.offset + byteLength p.source := by
  obtain ⟨n', -, rfl⟩ := exists_take_of_step h
  rfl

/-- The bytes of all pieces have been taken in. -/
theorem offset_of_foldlM {ps : List Piece} {m : Nesting} (h : ps.foldlM (step minify) n = .ok m) :
    m.offset = n.offset + byteLength (ps.flatMap Piece.source) := by
  induction ps generalizing n with
  | nil => cases h; rfl
  | cons p ps ih =>
      rw [List.foldlM_cons] at h
      cases hstep : n.step minify p with
      | error e => rw [hstep] at h; cases h
      | ok n₁ =>
          rw [hstep] at h
          rw [ih h, offset_of_step hstep, List.flatMap_cons, Text.byteLength_append, Nat.add_assoc]

variable {r distance}

/-- A piece that is read between two places that move alike is read there after the move. -/
theorem step_relocate {m : Nesting} {p : Piece} (h : n.step minify p = .ok m)
    (hr : r.Moves n.offset m.offset distance) :
    (n.relocate r distance).step minify p = .ok (m.relocate r distance) := by
  have hoffset := offset_of_step h
  have hpos := Text.byteLength_pos p.source_ne_nil
  have hspan := hr n.offset m.offset (Nat.le_refl _) (by omega) (Nat.le_refl _)
  obtain ⟨n', htake, rfl⟩ := exists_take_of_step h
  have hmoved := (tracks_take r distance n _ p).of_ok htake
  rw [hspan, Nat.add_right_comm] at hmoved
  rw [step_of_take hmoved]
  simp only [relocate, Nat.add_right_comm]

/-- **Pieces that are moved as a whole** and read on from the relocated tree give the relocated
tree. -/
theorem foldlM_relocate {ps : List Piece} {m : Nesting} (h : ps.foldlM (step minify) n = .ok m)
    (hr : r.Moves n.offset m.offset distance) :
    ps.foldlM (step minify) (n.relocate r distance) = .ok (m.relocate r distance) := by
  induction ps generalizing n with
  | nil => cases h; rfl
  | cons p ps ih =>
      rw [List.foldlM_cons] at h ⊢
      cases hstep : n.step minify p with
      | error e => rw [hstep] at h; cases h
      | ok n₁ =>
          rw [hstep] at h
          have hfirst := offset_of_step hstep
          have hlast := offset_of_foldlM h
          rw [step_relocate hstep (hr.mono (Nat.le_refl _) (by omega))]
          exact ih h (hr.mono (by omega) (Nat.le_refl _))

/-- The tree of the text before a place stays as it is if nothing before the place is moved. -/
theorem relocate_eq_self {ps : List Piece} (h : ps.foldlM (step minify) start = .ok n)
    (hr : r.Moves 0 n.offset 0) : n.relocate r 0 = n := by
  have hmoved : ps.foldlM (step minify) start = .ok (n.relocate r 0) := foldlM_relocate h hr
  exact Except.ok.inj (hmoved.symm.trans h)

/-- A text that ends with no element open ends so elsewhere, with the tree moved. -/
theorem finish_relocate {tree : List Located} (h : n.finish = .ok tree) :
    (n.relocate r distance).finish = .ok (Located.relocateAll r tree) := by
  obtain ⟨offset, unanswered, opened, top⟩ := n
  cases opened with
  | nil => cases h; rfl
  | cons e outer => cases h

end Nesting

end Markup

end MarkupTemplates
