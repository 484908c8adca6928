import Mathlib.Data.List.Infix
import MarkupTemplates.Proofs.Markup.Reading
import MarkupTemplates.Proofs.Tracks

/-!
# Tags and their answers

Each closing tag of a text uses up an opening tag, whatever their names are.  The pieces of a text
that is read are `Answered`: no place has more closing tags than opening tags before it
(`Nesting.answered_of_foldlM`).  How many opening tags are left plays no other part: pieces that are
read with some number of them are read with another one to the same tree as long as they are
answered, and are refused at a closing tag if they are not (`Nesting.foldlM_owing`,
`Nesting.foldlM_owing_error`).
-/

namespace MarkupTemplates.Markup

open Text (Span)

namespace Piece

/-- Whether the piece is an opening tag; the tag of an element that it closes at once is none. -/
def opens : Piece → Bool
  | .opening _ => true
  | _ => false

/-- Whether the piece is a closing tag. -/
def closes : Piece → Bool
  | .closing _ => true
  | _ => false

end Piece

/-- The number of opening tags. -/
def openings (ps : List Piece) : Nat := ps.countP Piece.opens

/-- The number of closing tags. -/
def closings (ps : List Piece) : Nat := ps.countP Piece.closes

/-- No place has more closing tags before it than opening tags, `spare` more of which are taken to
stand before the pieces. -/
def Answered (spare : Nat) (ps : List Piece) : Prop :=
  ∀ before, before <+: ps → closings before ≤ spare + openings before

instance (spare : Nat) (ps : List Piece) : Decidable (Answered spare ps) :=
  decidable_of_iff (∀ before ∈ ps.inits, closings before ≤ spare + openings before)
    (by simp only [Answered, List.mem_inits])

theorem answered_nil (spare : Nat) : Answered spare [] := by
  intro before hbefore
  obtain rfl := List.prefix_nil.mp hbefore
  exact Nat.zero_le _

theorem openings_append (ps qs : List Piece) : openings (ps ++ qs) = openings ps + openings qs :=
  List.countP_append

theorem closings_append (ps qs : List Piece) : closings (ps ++ qs) = closings ps + closings qs :=
  List.countP_append

/-- Pieces are answered one part after the other: the second part may spend what the first has left.
-/
theorem answered_append {spare : Nat} {ps qs : List Piece} :
    Answered spare (ps ++ qs) ↔
      Answered spare ps ∧ Answered (spare + openings ps - closings ps) qs := by
  constructor
  · refine fun hall => ⟨fun before hb => hall before (hb.trans (List.prefix_append ps qs)), ?_⟩
    intro before hb
    have hhere := hall ps (List.prefix_append ps qs)
    have hlater := hall (ps ++ before) ((List.prefix_append_right_inj ps).mpr hb)
    rw [openings_append, closings_append] at hlater
    omega
  · rintro ⟨hps, hqs⟩ before hb
    rcases List.prefix_or_prefix_of_prefix hb (List.prefix_append ps qs) with hb' | ⟨rest, rfl⟩
    · exact hps before hb'
    · have hhere := hps ps (List.prefix_refl ps)
      have hlater := hqs rest ((List.prefix_append_right_inj ps).mp hb)
      rw [openings_append, closings_append]
      omega

/-- A closing tag needs an opening tag before it. -/
theorem answered_singleton {spare : Nat} {p : Piece} :
    Answered spare [p] ↔ closings [p] ≤ spare := by
  have hone : Answered spare [p] ↔ closings [p] ≤ spare + openings [p] := by
    refine ⟨fun h => h [p] (List.prefix_refl _), fun h before hb => ?_⟩
    rcases List.prefix_cons_iff.mp hb with rfl | ⟨rest, rfl, hrest⟩
    · exact Nat.zero_le _
    · rwa [List.prefix_nil.mp hrest]
  rw [hone]
  cases p with
  | closing content => exact Iff.rfl
  | _ => exact iff_of_true (Nat.zero_le _) (Nat.zero_le _)

/-- The first piece is answered from what there is, and the others from what it leaves. -/
theorem answered_cons {spare : Nat} {p : Piece} {ps : List Piece} :
    Answered spare (p :: ps) ↔
      closings [p] ≤ spare ∧ Answered (spare + openings [p] - closings [p]) ps := by
  rw [← List.singleton_append, answered_append, answered_singleton]

namespace Nesting

variable {minify : Bool} (n : Nesting)

/-- The nesting with another number of opening tags that a closing tag may still answer. -/
def owing (spare : Nat) (n : Nesting) : Nesting := { n with unanswered := spare }

theorem owing_unanswered : n.owing n.unanswered = n := rfl

theorem append_owing (spare : Nat) (node : Located) :
    (n.owing spare).append node = (n.append node).owing spare := by
  obtain ⟨offset, unanswered, opened, top⟩ := n
  cases opened with
  | nil => rfl
  | cons e outer => rfl

theorem appendText_owing (spare : Nat) (content : List Char) (span : Span) :
    (n.owing spare).appendText minify content span =
      (n.appendText minify content span).owing spare := by
  unfold appendText
  extract_lets kept
  split
  · rfl
  · exact append_owing n spare _

/-- An element is closed alike, whatever number of closing tags is owing. -/
theorem close_owing (u w : Nat) (name : String) (span : Span) :
    (n.owing u).close name span = ((n.owing w).close name span).map (owing u) := by
  obtain ⟨offset, unanswered, opened, top⟩ := n
  cases opened with
  | nil => rfl
  | cons e outer =>
      simp only [close, owing]
      split
      · exact congrArg Except.ok (append_owing ⟨offset, w, outer, top⟩ u _)
      · rfl

theorem openTag_owing (u w : Nat) (content : List Char) (span : Span) :
    (n.owing u).openTag content span =
      ((n.owing w).openTag content span).map (owing (u + 1)) := by
  rw [openTag, openTag]
  cases openElement content span with
  | error e => rfl
  | ok e =>
      simp only [bind, Except.bind]
      split
      · exact congrArg Except.ok (append_owing (n.owing (w + 1)) (u + 1) _)
      · rfl

theorem selfClose_owing (u w : Nat) (content : List Char) (span : Span) :
    (n.owing u).selfClose content span = ((n.owing w).selfClose content span).map (owing u) := by
  rw [selfClose, selfClose]
  cases openElement content span with
  | error e => rfl
  | ok e => exact congrArg Except.ok (append_owing (n.owing w) u _)

/-- A closing tag does the same and answers one, whatever number is owing, if there is one at all.
-/
theorem closeTag_owing (u w : Nat) (content : List Char) (span : Span) :
    (n.owing (u + 1)).closeTag content span =
      ((n.owing (w + 1)).closeTag content span).map (owing u) := by
  simp only [closeTag, owing]
  split
  · rfl
  · exact close_owing n u w _ span

/-- **What one piece adds to a tree** does not depend on how many opening tags there are still to be
answered, if it is answered itself. -/
theorem take_owing {u w : Nat} {p : Piece} (hu : closings [p] ≤ u) (hw : closings [p] ≤ w)
    (span : Span) :
    (n.owing u).take minify span p =
      ((n.owing w).take minify span p).map (owing (u + openings [p] - closings [p])) := by
  cases p with
  | text first rest =>
      rw [take, take]
      split
      · exact congrArg Except.ok (appendText_owing (n.owing w) u _ span)
      · rfl
  | characterData content => exact congrArg Except.ok (appendText_owing (n.owing w) u content span)
  | opening content => exact openTag_owing n u w content span
  | selfClosing content => exact selfClose_owing n u w content span
  | closing content =>
      obtain ⟨u, rfl⟩ := Nat.exists_eq_succ_of_ne_zero (Nat.ne_of_gt hu)
      obtain ⟨w, rfl⟩ := Nat.exists_eq_succ_of_ne_zero (Nat.ne_of_gt hw)
      exact closeTag_owing n u w content span
  | comment _ => rfl
  | instruction _ => rfl
  | documentType _ _ => rfl

/-- A closing tag is refused if no opening tag is left. -/
theorem take_owing_error {u : Nat} {p : Piece} (hu : u < closings [p]) (span : Span) :
    ∃ name, (n.owing u).take minify span p =
      .error ⟨.byteAt span.start, .unanswering name⟩ := by
  cases p with
  | closing content =>
      obtain rfl : u = 0 := Nat.lt_one_iff.mp hu
      exact ⟨closingName content, rfl⟩
  | _ => exact absurd hu (Nat.not_lt_zero u)

/-! ### Rows of pieces -/

/-- A piece is read alike with two numbers of owing tags, if both are enough for it. -/
theorem step_owing {u w : Nat} {p : Piece} (hu : closings [p] ≤ u) (hw : closings [p] ≤ w) :
    (n.owing u).step minify p =
      ((n.owing w).step minify p).map (owing (u + openings [p] - closings [p])) := by
  rw [step, step, show (n.owing u).offset = (n.owing w).offset from rfl, take_owing n hu hw]
  cases (n.owing w).take minify
    ⟨(n.owing w).offset, (n.owing w).offset + Text.byteLength p.source⟩ p with
  | error e => rfl
  | ok m => rfl

/-- A closing tag is refused if none is owing. -/
theorem step_owing_error {u : Nat} {p : Piece} (hu : u < closings [p]) :
    ∃ span name, (n.owing u).step minify p = .error ⟨span, .unanswering name⟩ := by
  obtain ⟨name, htake⟩ := take_owing_error n hu
    ⟨n.offset, n.offset + Text.byteLength p.source⟩
  exact ⟨_, name, by rw [step]; exact congrArg (· >>= _) htake⟩

variable {n}

/-- A piece that is read is answered, and uses up or adds an opening tag. -/
theorem closings_le_of_step {m : Nesting} {p : Piece} (h : n.step minify p = .ok m) :
    closings [p] ≤ n.unanswered ∧ m.unanswered = n.unanswered + openings [p] - closings [p] := by
  have hle : closings [p] ≤ n.unanswered := by
    rw [← Nat.not_lt]
    intro hlt
    obtain ⟨span, name, herror⟩ : ∃ span name,
        n.step minify p = .error ⟨span, .unanswering name⟩ := step_owing_error n hlt
    cases h.symm.trans herror
  have hsame : n.step minify p = (n.step minify p).map
      (owing (n.unanswered + openings [p] - closings [p])) := step_owing n hle hle
  rw [h] at hsame
  exact ⟨hle, congrArg Nesting.unanswered (Except.ok.inj hsame)⟩

/-- **Pieces that are read are answered.** -/
theorem answered_of_foldlM {m : Nesting} {ps : List Piece}
    (h : ps.foldlM (step minify) n = .ok m) :
    Answered n.unanswered ps ∧ m.unanswered = n.unanswered + openings ps - closings ps := by
  induction ps generalizing n with
  | nil => cases h; exact ⟨answered_nil _, rfl⟩
  | cons p ps ih =>
      rw [List.foldlM_cons] at h
      cases hstep : n.step minify p with
      | error e => rw [hstep] at h; cases h
      | ok n₁ =>
          rw [hstep] at h
          obtain ⟨hle, hspare⟩ := closings_le_of_step hstep
          obtain ⟨hrest, hm⟩ := ih h
          rw [hspare] at hrest hm
          refine ⟨answered_cons.mpr ⟨hle, hrest⟩, ?_⟩
          have hopen := openings_append [p] ps
          have hclose := closings_append [p] ps
          rw [List.singleton_append] at hopen hclose
          have hall := hrest ps (List.prefix_refl ps)
          omega

/-- **Pieces that are answered are read to the same tree**, whatever number of opening tags is left
before them. -/
theorem foldlM_owing {m : Nesting} {ps : List Piece} {u : Nat}
    (h : ps.foldlM (step minify) n = .ok m) (hu : Answered u ps) :
    ∃ w, ps.foldlM (step minify) (n.owing u) = .ok (m.owing w) := by
  induction ps generalizing n u with
  | nil => cases h; exact ⟨u, rfl⟩
  | cons p ps ih =>
      rw [List.foldlM_cons] at h ⊢
      cases hstep : n.step minify p with
      | error e => rw [hstep] at h; cases h
      | ok n₁ =>
          rw [hstep] at h
          obtain ⟨hp, hps⟩ := answered_cons.mp hu
          rw [step_owing n hp (closings_le_of_step hstep).1, owing_unanswered, hstep]
          exact ih h hps

/-- **Pieces that are not answered are refused** at a closing tag. -/
theorem foldlM_owing_error {m : Nesting} {ps : List Piece} {u : Nat}
    (h : ps.foldlM (step minify) n = .ok m) (hu : ¬ Answered u ps) :
    ∃ span name, ps.foldlM (step minify) (n.owing u) = .error ⟨span, .unanswering name⟩ := by
  induction ps generalizing n u with
  | nil => exact absurd (answered_nil u) hu
  | cons p ps ih =>
      rw [List.foldlM_cons] at h ⊢
      cases hstep : n.step minify p with
      | error e => rw [hstep] at h; cases h
      | ok n₁ =>
          rw [hstep] at h
          by_cases hp : closings [p] ≤ u
          · rw [step_owing n hp (closings_le_of_step hstep).1, owing_unanswered, hstep]
            exact ih h fun hps => hu (answered_cons.mpr ⟨hp, hps⟩)
          · obtain ⟨span, name, herror⟩ := step_owing_error n (Nat.not_le.mp hp)
            exact ⟨span, name, by rw [herror]; rfl⟩

end Nesting

end MarkupTemplates.Markup
