import MarkupTemplates.Proofs.Markup.Places
import MarkupTemplates.Proofs.Yields

/-!
# Where faults of markup stand

A text that is no markup tree is marked where its fault is (`marks_of_readTree`): at the piece that
is refused, at the `<` with which a piece begins that cannot be read or answers nothing, at the `>`
of a document type without a name, or at the opening tag of an element that is left open.
-/

namespace MarkupTemplates.Markup

open Text (Span byteLength Marks)

theorem utf8Size_toUpper (c : Char) : c.toUpper.utf8Size = c.utf8Size := by
  unfold Char.toUpper
  split
  · rename_i h
    have hlow : 97 ≤ c.val.toNat := UInt32.le_iff_toNat_le.mp h.1
    have hhigh : c.val.toNat ≤ 122 := UInt32.le_iff_toNat_le.mp h.2
    have hupper : (c.val + ('A'.val - 'a'.val)).toNat ≤ 127 := by
      rw [UInt32.toNat_add, show ('A'.val - 'a'.val).toNat = 4294967264 from rfl]
      omega
    rw [Char.utf8Size, Char.utf8Size, if_pos (UInt32.le_iff_toNat_le.mpr hupper),
      if_pos (UInt32.le_iff_toNat_le.mpr (Nat.le_trans hhigh (by decide)))]
  · rfl

/-- A keyword in capitals takes as many bytes as in small letters. -/
theorem byteLength_map_toUpper (cs : List Char) :
    byteLength (cs.map Char.toUpper) = byteLength cs := by
  induction cs with
  | nil => rfl
  | cons c cs ih => simp only [List.map_cons, Text.byteLength_cons, utf8Size_toUpper, ih]

namespace Piece

variable {c : Char} {cs : List Char} {fault fault' : PieceFault}

/-- A piece that is read up to a mark can only lack the mark. -/
theorem fault_of_readUpTo {mark : List Char} {piece : List Char → Piece}
    (h : readUpTo mark piece fault cs = .error fault') : fault' = fault := by
  rw [readUpTo] at h
  split at h
  · cases h
  · cases h; rfl

theorem fault_of_readBetween {opening mark : List Char} {piece : List Char → Piece}
    (h : readBetween opening mark piece fault cs = .error fault') : fault' = fault := by
  rw [readBetween] at h
  split at h
  · exact fault_of_readUpTo h
  · cases h; rfl

theorem fault_of_readTag {piece : List Char → Piece} (h : readTag piece cs = .error fault) :
    fault = .openTag := by
  rw [readTag] at h
  split at h
  · cases h
  · cases h; rfl

/-- Most faults are marked at the `<`. -/
theorem marks_of_distance (h : fault.distance = 0) :
    Marks ('<' :: cs) (.byteAt fault.distance) := by
  rw [h]; exact @Text.marks_byteAt [] '<' rfl cs

/-- A document type without a name is marked at its `>`. -/
theorem marks_of_readDocumentType (h : readDocumentType cs = .error fault) :
    Marks ('<' :: '!' :: cs) (.byteAt fault.distance) := by
  rw [readDocumentType] at h
  split at h
  · rename_i hkeyword
    split at h
    · rename_i content rest hcut
      split at h
      · cases h
        have hseven : byteLength (cs.take 7) = 7 := by
          rw [← byteLength_map_toUpper, hkeyword]; rfl
        have hplace : 9 + byteLength content =
            byteLength ('<' :: '!' :: (cs.take 7 ++ content)) := by
          rw [Text.byteLength_cons, Text.byteLength_cons, Text.byteLength_append, hseven,
            show ('<' : Char).utf8Size = 1 from rfl, show ('!' : Char).utf8Size = 1 from rfl]
          omega
        have hcs : cs = cs.take 7 ++ content ++ '>' :: rest := by
          rw [List.append_assoc, append_of_cutBalanced hcut, List.take_append_drop]
        have htext : '<' :: '!' :: cs = '<' :: '!' :: (cs.take 7 ++ content) ++ '>' :: rest :=
          congrArg ('<' :: '!' :: ·) hcs
        rw [htext, PieceFault.distance, hplace]
        exact Text.marks_byteAt rfl rest
      · cases h
    · cases h; exact marks_of_distance rfl
  · cases h; exact marks_of_distance rfl

/-- A declaration that cannot be read is blamed on a byte of it. -/
theorem marks_of_readDeclaration (h : readDeclaration cs = .error fault) :
    Marks ('<' :: '!' :: cs) (.byteAt fault.distance) := by
  rw [readDeclaration] at h
  split at h
  · cases h; exact marks_of_distance rfl
  · split at h
    · rw [fault_of_readBetween h]; exact marks_of_distance rfl
    · split at h
      · rw [fault_of_readBetween h]; exact marks_of_distance rfl
      · split at h
        · exact marks_of_readDocumentType h
        · cases h; exact marks_of_distance rfl

/-- **Where no piece can be read**, something is marked. -/
theorem marks_of_read (h : read c cs = .error fault) :
    Marks (c :: cs) (.byteAt fault.distance) := by
  rw [read] at h
  split at h
  · rename_i hc
    rw [hc]
    cases cs with
    | nil => cases h; exact marks_of_distance rfl
    | cons d cs =>
        rw [readMarkup] at h
        split at h
        · rename_i hd
          rw [hd]; exact marks_of_readDeclaration h
        · split at h
          · rw [readInstruction] at h
            split at h
            · cases h; exact marks_of_distance rfl
            · rw [fault_of_readUpTo h]; exact marks_of_distance rfl
          · split at h
            · rw [fault_of_readTag h]; exact marks_of_distance rfl
            · rw [fault_of_readTag h]; exact marks_of_distance rfl
  · cases h

end Piece

/-- The fault that ends a row of pieces is marked behind them. -/
theorem marks_of_pieces {cs : List Char} {ps : List Piece} {fault : PieceFault}
    (h : pieces cs = (ps, some fault)) : Marks cs (.byteAt (extent ps + fault.distance)) := by
  fun_induction pieces cs generalizing ps with
  | case1 => cases h
  | case2 c cs p rest hread more fault' hrest ih =>
      cases h
      rw [← Piece.source_append_of_read hread, extent_cons, Nat.add_assoc]
      exact (ih hrest).shift
  | case3 c cs fault' hread =>
      cases h
      rw [extent_nil, Nat.zero_add]
      exact Piece.marks_of_read hread

namespace Nesting

variable {minify : Bool} {n : Nesting} {e : NestingError} {p : Piece}

/-- A wrong tag is blamed where it stands. -/
theorem blames_openElement (content : List Char) (span : Span) :
    Blames (openElement content span) (·.span = span) := by
  rw [openElement]
  split
  · exact .ok _
  · exact .error rfl

theorem blames_openTag (n : Nesting) (content : List Char) (span : Span) :
    Blames (n.openTag content span) (·.span = span) := by
  refine (blames_openElement content span).bind fun e _ => ?_
  dsimp only
  split
  · exact .ok _
  · exact .ok _

theorem blames_selfClose (n : Nesting) (content : List Char) (span : Span) :
    Blames (n.selfClose content span) (·.span = span) :=
  (blames_openElement content span).bind fun _ _ => .ok _

/-- A closing tag that closes nothing is blamed where it stands. -/
theorem blames_close (n : Nesting) (name : String) (span : Span) :
    Blames (n.close name span) (·.span = span) := by
  rw [close]
  split
  · exact .error rfl
  · split
    · exact .ok _
    · exact .error rfl

/-- A wrong closing tag is blamed where it stands, or where it begins. -/
theorem blames_closeTag (n : Nesting) (content : List Char) (span : Span) :
    Blames (n.closeTag content span) fun e => e.span = span ∨ e.span = .byteAt span.start := by
  rw [closeTag]
  split
  · exact .error (.inr rfl)
  · split
    · exact .ok _
    · exact fun e he => .inl (blames_close _ _ _ e he)

/-- A piece that is refused is marked, or its first byte, which is a `<`. -/
theorem blames_step (n : Nesting) (p : Piece) :
    Blames (n.step minify p) fun e => e.span = ⟨n.offset, n.offset + byteLength p.source⟩ ∨
      e.span = .byteAt n.offset ∧ ∃ rest, p.source = '<' :: rest := by
  refine .bind ?_ fun _ _ => .ok _
  cases p with
  | text first rest =>
      rw [take]
      split
      · exact .ok _
      · exact .error (.inl rfl)
  | opening content => exact fun e he => .inl (blames_openTag n content _ e he)
  | selfClosing content => exact fun e he => .inl (blames_selfClose n content _ e he)
  | closing content =>
      exact fun e he => (blames_closeTag n content _ e he).imp_right fun hspan => ⟨hspan, _, rfl⟩
  | characterData content => exact .ok _
  | comment _ => exact .ok n
  | instruction _ => exact .ok n
  | documentType _ _ => exact .ok n

/-- A piece that cannot be taken is blamed on a part of the text that is not empty. -/
theorem Traced.marks_of_step (h : n.Traced ps) (he : n.step minify p = .error e)
    (rest : List Char) : Marks (ps.flatMap Piece.source ++ (p.source ++ rest)) e.span := by
  rcases blames_step n p e he with hspan | ⟨hspan, source, hp⟩
  · rw [hspan, h.offset_eq]
    exact ⟨p.source, p.source_ne_nil, ps.flatMap Piece.source, rest, by simp, rfl, rfl⟩
  · rw [hspan, h.offset_eq, hp]
    exact Text.marks_byteAt rfl (source ++ rest)

/-- A row of pieces that is refused is marked in each text that begins with it. -/
theorem Traced.marks_of_foldlM (h : n.Traced ps)
    (he : qs.foldlM (Nesting.step minify) n = .error e) (rest : List Char) :
    Marks ((ps ++ qs).flatMap Piece.source ++ rest) e.span := by
  induction qs generalizing n ps with
  | nil => cases he
  | cons p qs ih =>
      rw [List.foldlM_cons] at he
      cases hstep : n.step minify p with
      | error e' =>
          rw [hstep] at he
          cases he
          have := h.marks_of_step hstep (qs.flatMap Piece.source ++ rest)
          simpa only [List.flatMap_append, List.flatMap_cons, List.append_assoc] using this
      | ok n₁ =>
          rw [hstep] at he
          have := ih (h.step hstep) he
          rwa [List.append_assoc] at this

/-- An element that is left open is marked by its opening tag. -/
theorem Traced.marks_of_finish (h : n.Traced ps) (he : n.finish = .error e) :
    Marks (ps.flatMap Piece.source) e.span := by
  obtain ⟨offset, unanswered, opened, top⟩ := n
  obtain ⟨-, hnested⟩ := h
  cases hnested with
  | outside => cases he
  | within houter hname hvoid hinner hspan hchildren =>
      rename_i before inner content element outer
      cases he
      have hcovers : Covers (before ++ Piece.opening content :: inner) [.opening content]
          element.span := ⟨before, inner, by simp, hspan⟩
      have := hcovers.cuts []
      rw [List.append_nil] at this
      exact ⟨_, by simp [Piece.source], this⟩

end Nesting

/-- **A text that is no tree is marked at its fault.** -/
theorem marks_of_readTree {minify : Bool} {cs : List Char} {e : NestingError}
    (h : readTree minify cs = .error e) : Marks (dropMark cs) e.span := by
  obtain ⟨ps, fault, hpieces⟩ : ∃ ps fault, pieces (dropMark cs) = (ps, fault) := ⟨_, _, rfl⟩
  have hprefix := flatMap_source_pieces_isPrefix (dropMark cs)
  rw [hpieces] at hprefix
  obtain ⟨rest, hrest⟩ := hprefix
  simp only [readTree, hpieces] at h
  split at h
  · rename_i he
    cases h
    rw [← hrest]
    exact Nesting.traced_start.marks_of_foldlM he rest
  · rename_i n hn
    have htraced : n.Traced ps := Nesting.traced_start.foldlM hn
    split at h
    · rename_i fault
      cases h
      rw [htraced.offset_eq]
      exact marks_of_pieces hpieces
    · rw [← hrest]
      exact (htraced.marks_of_finish h).append rest

end MarkupTemplates.Markup
