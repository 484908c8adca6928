import MarkupTemplates.Proofs.Markup.Reading

/-!
# Seams of a text

How a piece is read depends on the piece alone: other text may stand after it, if only a text still
ends where it did (`Piece.read_append`).  A text can therefore be taken apart between two of its
pieces, and the part before the place and the part after it are read as they were
(`pieces_flatMap_append`, `pieces_flatMap_source`).  Such a place is a `Seam`; what is put there and
begins with `<` becomes a piece between the others (`Seam.pieces_insert`).
-/

namespace MarkupTemplates.Markup

/-- A text that stands before these characters ends there. -/
def EndsText (cs : List Char) : Prop := ∀ c ∈ cs.head?, c = '<'

theorem endsText_cons (cs : List Char) : EndsText ('<' :: cs) := by
  rintro _ ⟨⟩; rfl

theorem endsText_dropWhile (cs : List Char) : EndsText (cs.dropWhile (· != '<')) := by
  intro c hc
  have hstop := List.head?_dropWhile_not (· != '<') cs
  rw [Option.mem_def.mp hc] at hstop
  simpa using hstop

/-- No text goes on into what ends it. -/
theorem EndsText.takeWhile_eq_nil {cs : List Char} (h : EndsText cs) :
    cs.takeWhile (· != '<') = [] := by
  cases cs with
  | nil => rfl
  | cons c cs => simp [h c rfl]

/-- Nothing of what ends a text belongs to it. -/
theorem EndsText.dropWhile_eq_self {cs : List Char} (h : EndsText cs) :
    cs.dropWhile (· != '<') = cs := by
  cases cs with
  | nil => rfl
  | cons c cs => simp [h c rfl]

namespace Piece

/-! ### The end of a piece -/

/-- The first end mark is the same one, whatever stands behind it. -/
theorem cutAt_append {mark cs before after : List Char} (h : cutAt mark cs = some (before, after))
    (hmark : mark ≠ []) (after' : List Char) :
    cutAt mark (before ++ mark ++ after') = some (before, after') := by
  induction cs generalizing before with
  | nil => simp [cutAt] at h
  | cons c cs ih =>
      simp only [cutAt] at h
      split at h
      · simp only [Option.some.injEq, Prod.mk.injEq] at h
        obtain ⟨rfl, -⟩ := h
        obtain ⟨d, ds, rfl⟩ := List.exists_cons_of_ne_nil hmark
        simp [cutAt]
      · rename_i hp
        obtain ⟨⟨b, a⟩, hcut, hba⟩ := Option.map_eq_some_iff.mp h
        simp only [Prod.mk.injEq] at hba
        obtain ⟨rfl, rfl⟩ := hba
        -- whether the mark stands here is decided by the characters up to the first mark
        have htext := append_of_cutAt hcut
        have hno : ¬ mark.isPrefixOf (c :: (b ++ mark ++ after')) = true := by
          rw [List.isPrefixOf_iff_prefix] at hp ⊢
          refine fun hprefix => hp ?_
          have hshort : mark <+: c :: (b ++ mark) := by
            refine List.prefix_of_prefix_length_le hprefix ?_ (by simp; omega)
            exact ⟨after', by simp⟩
          rw [← htext]
          simpa using hshort.trans (List.prefix_append (c :: (b ++ mark)) a)
        have hcons : c :: b ++ mark ++ after' = c :: (b ++ mark ++ after') := rfl
        rw [hcons, cutAt, if_neg hno, ih hcut]
        rfl

/-- The end of a tag is the same one, whatever stands behind it. -/
theorem cutTag_append {quote : Option Char} {cs content after : List Char}
    (h : cutTag quote cs = some (content, after)) (after' : List Char) :
    cutTag quote (content ++ '>' :: after') = some (content, after') := by
  induction cs generalizing quote content with
  | nil => simp [cutTag] at h
  | cons c cs ih =>
      cases quote with
      | none =>
          simp only [cutTag] at h
          split at h
          · simp only [Option.some.injEq, Prod.mk.injEq] at h
            obtain ⟨rfl, -⟩ := h
            simp [cutTag]
          · rename_i hc
            obtain ⟨⟨b, a⟩, hcut, hba⟩ := Option.map_eq_some_iff.mp h
            simp only [Prod.mk.injEq] at hba
            obtain ⟨rfl, rfl⟩ := hba
            rw [List.cons_append, cutTag]
            simp only [if_neg hc, ih hcut, Option.map_some]
      | some q =>
          simp only [cutTag] at h
          obtain ⟨⟨b, a⟩, hcut, hba⟩ := Option.map_eq_some_iff.mp h
          simp only [Prod.mk.injEq] at hba
          obtain ⟨rfl, rfl⟩ := hba
          rw [List.cons_append, cutTag]
          simp only [ih hcut, Option.map_some]

/-- The bracket that balances the others is the same one, whatever stands behind it. -/
theorem cutBalanced_append {depth : Nat} {cs before after : List Char}
    (h : cutBalanced depth cs = some (before, after)) (after' : List Char) :
    cutBalanced depth (before ++ '>' :: after') = some (before, after') := by
  induction cs generalizing depth before with
  | nil => simp [cutBalanced] at h
  | cons c cs ih =>
      simp only [cutBalanced] at h
      split at h
      · rename_i hc
        simp only [Option.some.injEq, Prod.mk.injEq] at h
        obtain ⟨rfl, -⟩ := h
        simp [cutBalanced, hc.2]
      · rename_i hc
        obtain ⟨⟨b, a⟩, hcut, hba⟩ := Option.map_eq_some_iff.mp h
        simp only [Prod.mk.injEq] at hba
        obtain ⟨rfl, rfl⟩ := hba
        rw [List.cons_append, cutBalanced, if_neg hc]
        simp only [ih hcut, Option.map_some]

/-! ### Reading with another rest -/

variable {p : Piece} {c : Char} {cs rest : List Char}

theorem readUpTo_append {mark : List Char} {piece : List Char → Piece} {fault : PieceFault}
    (h : readUpTo mark piece fault cs = .ok (p, rest)) (hmark : mark ≠ []) (rest' : List Char) :
    ∃ content, p = piece content ∧
      readUpTo mark piece fault (content ++ mark ++ rest') = .ok (p, rest') := by
  simp only [readUpTo] at h
  split at h
  · rename_i content after hcut
    simp only [Except.ok.injEq, Prod.mk.injEq] at h
    obtain ⟨rfl, rfl⟩ := h
    exact ⟨content, rfl, by rw [readUpTo, cutAt_append hcut hmark]⟩
  · cases h

theorem readBetween_append {opening mark : List Char} {piece : List Char → Piece}
    {fault : PieceFault} (h : readBetween opening mark piece fault cs = .ok (p, rest))
    (hmark : mark ≠ []) (rest' : List Char) :
    ∃ content, p = piece content ∧
      readBetween opening mark piece fault (opening ++ content ++ mark ++ rest') =
        .ok (p, rest') := by
  simp only [readBetween] at h
  split at h
  · obtain ⟨content, hp, hread⟩ := readUpTo_append h hmark rest'
    refine ⟨content, hp, ?_⟩
    have hopening : opening.isPrefixOf (opening ++ content ++ mark ++ rest') = true := by
      rw [List.isPrefixOf_iff_prefix]
      exact ⟨content ++ mark ++ rest', by simp⟩
    rw [readBetween, if_pos hopening, List.append_assoc, List.append_assoc, List.drop_left,
      ← List.append_assoc]
    exact hread
  · cases h

/-- A tag is read for itself. -/
theorem readTag_append {piece : List Char → Piece} (h : readTag piece cs = .ok (p, rest))
    (rest' : List Char) :
    ∃ content, p = piece content ∧ content ++ '>' :: rest = cs ∧
      readTag piece (content ++ '>' :: rest') = .ok (p, rest') := by
  simp only [readTag] at h
  split at h
  · rename_i content after hcut
    simp only [Except.ok.injEq, Prod.mk.injEq] at h
    obtain ⟨rfl, rfl⟩ := h
    exact ⟨content, rfl, append_of_cutTag hcut, by rw [readTag, cutTag_append hcut]⟩
  · cases h

/-- A document type is read for itself. -/
theorem readDocumentType_append (h : readDocumentType cs = .ok (p, rest)) (rest' : List Char) :
    ∃ keyword content, p = .documentType keyword content ∧ keyword = cs.take 7 ∧
      readDocumentType (keyword ++ content ++ '>' :: rest') = .ok (p, rest') := by
  simp only [readDocumentType] at h
  split at h
  · rename_i hkeyword
    split at h
    · rename_i content after hcut
      split at h
      · cases h
      · rename_i hname
        simp only [Except.ok.injEq, Prod.mk.injEq] at h
        obtain ⟨rfl, rfl⟩ := h
        refine ⟨cs.take 7, content, rfl, rfl, ?_⟩
        have hlength : (cs.take 7).length = 7 := by
          simpa [documentTypeKeyword] using congrArg List.length hkeyword
        have htake : (cs.take 7 ++ content ++ '>' :: rest').take 7 = cs.take 7 := by
          rw [List.append_assoc, List.take_left' hlength]
        have hdrop : (cs.take 7 ++ content ++ '>' :: rest').drop 7 = content ++ '>' :: rest' := by
          rw [List.append_assoc, List.drop_left' hlength]
        rw [readDocumentType, htake, hdrop, if_pos hkeyword, cutBalanced_append hcut]
        simp only [if_neg hname]
    · cases h
  · cases h

/-- What begins with an exclamation mark is read for itself. -/
theorem readDeclaration_append (h : readDeclaration cs = .ok (p, rest)) (rest' : List Char) :
    ∃ cs', p.source ++ rest' = '<' :: '!' :: cs' ∧ readDeclaration cs' = .ok (p, rest') := by
  rw [readDeclaration] at h
  split at h
  · cases h
  · rename_i c hc
    split at h
    · obtain ⟨content, rfl, hread⟩ := readBetween_append h (by decide) rest'
      exact ⟨commentOpen ++ content ++ commentClose ++ rest', by simp [source], hread⟩
    · split at h
      · obtain ⟨content, rfl, hread⟩ := readBetween_append h (by decide) rest'
        exact ⟨dataOpen ++ content ++ dataClose ++ rest', by simp [source], hread⟩
      · split at h
        · rename_i hdash hbracket hletter
          obtain ⟨keyword, content, rfl, rfl, hread⟩ := readDocumentType_append h rest'
          refine ⟨cs.take 7 ++ content ++ '>' :: rest', by simp [source], ?_⟩
          have hhead : (cs.take 7 ++ content ++ '>' :: rest').head? = some c := by
            cases cs with
            | nil => cases hc
            | cons d ds => simpa using hc
          rw [readDeclaration, hhead]
          simp only [if_neg hdash, if_neg hbracket, if_pos hletter, hread]
        · cases h

/-- A piece that begins with a bracket is read for itself. -/
theorem readMarkup_append (h : readMarkup cs = .ok (p, rest)) (rest' : List Char) :
    ∃ cs', p.source ++ rest' = '<' :: cs' ∧ readMarkup cs' = .ok (p, rest') := by
  cases cs with
  | nil => cases h
  | cons c cs =>
      rw [readMarkup] at h
      split at h
      · obtain ⟨cs', hsource, hread⟩ := readDeclaration_append h rest'
        exact ⟨'!' :: cs', hsource, by rw [readMarkup, if_pos rfl, hread]⟩
      · rename_i hmark
        split at h
        · rw [readInstruction] at h
          split at h
          · cases h
          · rename_i hhead
            obtain ⟨content, rfl, hcs⟩ := append_of_readUpTo h
            obtain ⟨content', hcontent, hread⟩ := readUpTo_append h (by decide) rest'
            obtain rfl := Piece.instruction.inj hcontent
            have hhead' : (content ++ instructionClose ++ rest').head? ≠ some '>' := by
              rw [← hcs] at hhead
              cases content with
              | nil => simp [instructionClose]
              | cons d ds => simpa using hhead
            refine ⟨'?' :: (content ++ instructionClose ++ rest'), by simp [source], ?_⟩
            rw [readMarkup, if_neg (by decide), if_pos rfl, readInstruction, if_neg hhead', hread]
        · rename_i hquestion
          split at h
          · obtain ⟨content, rfl, -, hread⟩ := readTag_append h rest'
            refine ⟨'/' :: (content ++ '>' :: rest'), by simp [source], ?_⟩
            rw [readMarkup, if_neg (by decide), if_neg (by decide), if_pos rfl, hread]
          · rename_i hslash
            obtain ⟨content, rfl, hcs, hread⟩ := readTag_append h rest'
            refine ⟨content ++ '>' :: rest', by simp [source_ofTagContent], ?_⟩
            cases content with
            | nil =>
                rw [List.nil_append, readMarkup, if_neg (by decide), if_neg (by decide),
                  if_neg (by decide)]
                exact hread
            | cons d ds =>
                obtain rfl := (List.cons.inj hcs).1
                rw [List.cons_append, readMarkup, if_neg hmark, if_neg hquestion, if_neg hslash]
                exact hread

/-- **A piece is read for itself**: with other text after it, at which a text ends if it ended
before, the same piece is read. -/
theorem read_append (h : read c cs = .ok (p, rest)) {rest' : List Char}
    (hends : EndsText rest → EndsText rest') :
    ∃ cs', p.source ++ rest' = c :: cs' ∧ read c cs' = .ok (p, rest') := by
  rw [read] at h
  split at h
  · rename_i hc
    obtain ⟨cs', hsource, hread⟩ := readMarkup_append h rest'
    exact ⟨cs', hc ▸ hsource, by rw [read, if_pos hc, hread]⟩
  · rename_i hc
    simp only [Except.ok.injEq, Prod.mk.injEq] at h
    obtain ⟨rfl, rfl⟩ := h
    have hrest' := hends (endsText_dropWhile cs)
    have hinner : ∀ d ∈ cs.takeWhile (· != '<'), (d != '<') = true :=
      List.all_eq_true.mp List.all_takeWhile
    refine ⟨cs.takeWhile (· != '<') ++ rest', rfl, ?_⟩
    rw [read, if_neg hc, List.takeWhile_append_of_pos hinner, List.dropWhile_append_of_pos hinner,
      hrest'.takeWhile_eq_nil, hrest'.dropWhile_eq_self, List.append_nil]

end Piece

/-! ### The pieces of parts -/

/-- The first piece of a text is read at its beginning, and the others are those of the rest. -/
theorem exists_read_of_pieces_eq_cons {cs : List Char} {p : Piece} {ps : List Piece}
    {fault : Option PieceFault} (h : pieces cs = (p :: ps, fault)) :
    ∃ c cs' rest, cs = c :: cs' ∧ Piece.read c cs' = .ok (p, rest) ∧ pieces rest = (ps, fault) := by
  cases cs with
  | nil => rw [pieces] at h; cases h
  | cons c cs =>
      cases hread : Piece.read c cs with
      | error e =>
          rw [pieces] at h
          split at h
          · rename_i hok; rw [hread] at hok; cases hok
          · cases h
      | ok r =>
          obtain ⟨p', rest⟩ := r
          rw [pieces_of_read hread] at h
          simp only [Prod.mk.injEq, List.cons.injEq] at h
          obtain ⟨⟨rfl, hmore⟩, hfault⟩ := h
          exact ⟨c, cs, rest, rfl, hread, Prod.ext hmore hfault⟩

/-- The pieces of a text without a fault are the text. -/
theorem flatMap_source_of_pieces {cs : List Char} {ps : List Piece} (h : pieces cs = (ps, none)) :
    ps.flatMap Piece.source = cs := by
  induction ps generalizing cs with
  | nil =>
      cases cs with
      | nil => rfl
      | cons c cs =>
          rw [pieces] at h
          split at h
          · cases h
          · cases h
  | cons p ps ih =>
      obtain ⟨c, cs', rest, rfl, hread, hrest⟩ := exists_read_of_pieces_eq_cons h
      rw [List.flatMap_cons, ih hrest, Piece.source_append_of_read hread]

/-- The text from a place between two pieces on. -/
theorem pieces_flatMap_source {cs : List Char} {ps qs : List Piece}
    (h : pieces cs = (ps ++ qs, none)) : pieces (qs.flatMap Piece.source) = (qs, none) := by
  induction ps generalizing cs with
  | nil =>
      rw [List.nil_append] at h
      rwa [flatMap_source_of_pieces h]
  | cons p ps ih =>
      obtain ⟨c, cs', rest, rfl, -, hrest⟩ := exists_read_of_pieces_eq_cons h
      exact ih hrest

/-- The text up to a place between two pieces, with other text after it. -/
theorem pieces_flatMap_append {cs after : List Char} {ps qs : List Piece}
    (h : pieces cs = (ps ++ qs, none)) (hafter : EndsText after) :
    pieces (ps.flatMap Piece.source ++ after) =
      (ps ++ (pieces after).1, (pieces after).2) := by
  induction ps generalizing cs with
  | nil => rfl
  | cons p ps ih =>
      obtain ⟨c, cs', rest, rfl, hread, hrest⟩ := exists_read_of_pieces_eq_cons h
      -- what follows the first piece begins as before, or is the other text
      have hends : EndsText rest → EndsText (ps.flatMap Piece.source ++ after) := by
        intro hends
        cases ps with
        | nil => exact hafter
        | cons p' ps =>
            obtain ⟨d, ds, hd⟩ := List.exists_cons_of_ne_nil p'.source_ne_nil
            rw [← flatMap_source_of_pieces hrest] at hends
            simpa [EndsText, List.flatMap_cons, hd] using hends
      obtain ⟨cs'', hsource, hread'⟩ := Piece.read_append hread hends
      rw [List.flatMap_cons, List.append_assoc, hsource, pieces_of_read hread', ih hrest]
      rfl

/-! ### Seams -/

/-- Whether there is a mark to drop is decided by the first part, if the second ends a text. -/
theorem dropMark_append {before after : List Char} (h : EndsText after) :
    dropMark (before ++ after) = dropMark before ++ after := by
  cases before with
  | nil =>
      cases after with
      | nil => rfl
      | cons c after =>
          obtain rfl := h c rfl
          rfl
  | cons c before =>
      rw [List.cons_append, dropMark, dropMark]
      split
      · rfl
      · rfl

/-- A text in two parts, with the pieces `ps` before and `qs` after the place between them; no piece
goes on over the place. -/
structure Seam (before after : List Char) (ps qs : List Piece) : Prop where
  /-- The pieces of the text are those of the two parts. -/
  pieces_eq : pieces (dropMark (before ++ after)) = (ps ++ qs, none)
  /-- The pieces before the place, with the mark that may open the text. -/
  before_eq : dropMark before = ps.flatMap Piece.source
  /-- The pieces after the place. -/
  after_eq : after = qs.flatMap Piece.source

/-- **What is put at a seam and begins with `<` is a piece of its own**, and the others stay. -/
theorem Seam.pieces_insert {before after content : List Char} {ps qs : List Piece} {p : Piece}
    (h : Seam before after ps qs) (hp : p.source = '<' :: content)
    (hread : Piece.read '<' (content ++ after) = .ok (p, after)) :
    pieces (dropMark (before ++ (p.source ++ after))) = (ps ++ p :: qs, none) := by
  have hends : EndsText (p.source ++ after) := hp ▸ endsText_cons _
  have hafter : pieces after = (qs, none) := h.after_eq ▸ pieces_flatMap_source h.pieces_eq
  rw [dropMark_append hends, h.before_eq, pieces_flatMap_append h.pieces_eq hends, hp,
    List.cons_append, pieces_of_read hread, hafter]

end MarkupTemplates.Markup
