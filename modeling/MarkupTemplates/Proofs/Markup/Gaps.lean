import MarkupTemplates.Proofs.Markup.Seams
import MarkupTemplates.Proofs.Markup.Written
import MarkupTemplates.Proofs.Text.Trimmed

/-!
# Gaps between markup

A text is markup between two gaps (`exists_closed_of_pieces`).  The markup is closed: whatever text
comes after it is read as if nothing came before.  A gap is a run of characters that is one text,
or nothing; gaps that meet where texts are put one behind the other run together into one
(`decode_append`).
-/

namespace MarkupTemplates.Markup

open Text (Span byteLength)

/-! ### Decoding -/

open Entity (decodeFrom reference isInner)

/-- A reference means the same character wherever it stands. -/
theorem reference_eq_ok {offset : Nat} {name : List Char} {c : Char}
    (h : reference offset name = .ok c) (offset' : Nat) : reference offset' name = .ok c := by
  unfold reference at h ⊢
  split at h
  · exact h
  · split at h
    · exact h
    · cases h

/-- What a text is decoded to does not depend on where it stands, nor on what comes after it. -/
theorem decodeFrom_append {size offset : Nat} {cs ds as bs : List Char}
    (hcs : decodeFrom size offset cs = .ok as)
    (hds : ∀ size offset, decodeFrom size offset ds = .ok bs) :
    ∀ size' offset', decodeFrom size' offset' (cs ++ ds) = .ok (as ++ bs) := by
  fun_induction decodeFrom size offset cs generalizing as with
  | case1 => cases hcs; exact hds
  | case2 offset cs rest hrest name =>
      rename_i ih
      intro size' offset'
      cases hd : reference (offset + 1) name with
      | error e => rw [hd] at hcs; cases hcs
      | ok d =>
          cases hmore : decodeFrom size (offset + 1 + byteLength name + 1) rest with
          | error e => simp only [hd, hmore, bind, Except.bind] at hcs; cases hcs
          | ok more =>
              simp only [hd, hmore, bind, Except.bind] at hcs
              cases hcs
              -- the reference is written with its name, and the rest is decoded after it
              have hwritten : Stands d ('&' :: name ++ [';']) :=
                .reference name List.all_takeWhile fun offset => reference_eq_ok hd offset
              have htext : '&' :: cs ++ ds = '&' :: name ++ [';'] ++ (rest ++ ds) := by
                rw [← List.takeWhile_append_dropWhile (p := isInner) (l := cs), hrest]
                simp [name]
              obtain ⟨next, hnext⟩ := hwritten.decodeFrom size' offset' (rest ++ ds)
              rw [htext, hnext, ih hmore]
              rfl
  | case3 => cases hcs
  | case4 offset c cs hc ih =>
      intro size' offset'
      cases hmore : decodeFrom size (offset + c.utf8Size) cs with
      | error e => rw [hmore] at hcs; cases hcs
      | ok more =>
          rw [hmore] at hcs
          cases hcs
          obtain ⟨next, hnext⟩ := (Stands.plain hc).decodeFrom size' offset' (cs ++ ds)
          rw [List.singleton_append] at hnext
          rw [List.cons_append, hnext, ih hmore]
          rfl

/-- Two texts that can be decoded are decoded one after the other. -/
theorem decode_append {cs ds as bs : List Char} (hcs : Entity.decode cs = .ok as)
    (hds : Entity.decode ds = .ok bs) : Entity.decode (cs ++ ds) = .ok (as ++ bs) := by
  refine decodeFrom_append hcs (fun size offset => ?_) _ _
  have hend : ∀ size offset, decodeFrom size offset [] = .ok [] := fun _ _ => by rw [decodeFrom]
  have hmoved := decodeFrom_append hds hend size offset
  rwa [List.append_nil, List.append_nil] at hmoved

/-! ### One text or nothing -/

/-- The pieces of a run of characters without `<`: one text, or nothing. -/
def textPieces : List Char → List Piece
  | [] => []
  | c :: cs => [.text c cs]

theorem flatMap_source_textPieces (w : List Char) : (textPieces w).flatMap Piece.source = w := by
  cases w with
  | nil => rfl
  | cons c w => simp [textPieces, Piece.source]

/-- A text without brackets is a piece of its own before what ends it, or none if it is empty. -/
theorem pieces_textPieces {w cs : List Char} (hw : '<' ∉ w) (hcs : EndsText cs) :
    pieces (w ++ cs) = (textPieces w ++ (pieces cs).1, (pieces cs).2) := by
  cases w with
  | nil => rfl
  | cons c w =>
      simp only [List.mem_cons, not_or] at hw
      have hall : ∀ d ∈ w, (d != '<') = true := fun d hd => bne_iff_ne.mpr fun e => hw.2 (e ▸ hd)
      have hread : Piece.read c (w ++ cs) = .ok (.text c w, cs) := by
        rw [Piece.read, if_neg (Ne.symm hw.1), List.takeWhile_append_of_pos hall,
          List.dropWhile_append_of_pos hall, hcs.takeWhile_eq_nil, hcs.dropWhile_eq_self,
          List.append_nil]
      exact pieces_of_read hread

/-- The nodes that a decoded text adds: one, or none if nothing is left of it. -/
def textNodes (minify : Bool) (content : List Char) (span : Span) : List Located :=
  let kept := if minify then Text.trimList content else content
  if kept.isEmpty then [] else [.text (String.ofList kept) span]

namespace Nesting

/-- A text adds one node or none, or goes on with the text before it. -/
theorem appendText_eq_extend (minify : Bool) (n : Nesting) (content : List Char) (span : Span)
    (stop : Nat) : { n.appendText minify content span with offset := stop } =
      n.extend (textNodes minify content span) stop := by
  simp only [appendText, textNodes]
  generalize (if minify = true then Text.trimList content else content) = kept
  by_cases hkept : kept.isEmpty = true
  · rw [if_pos hkept, if_pos hkept]
    exact (n.extend_nil_eq stop).symm
  · rw [if_neg hkept, if_neg hkept]
    exact append_eq_extend n _ stop

/-- A run of characters without `<` adds what it is decoded to. -/
theorem foldlM_textPieces (minify : Bool) (n : Nesting) (w : List Char) :
    let stop := n.offset + byteLength w
    (textPieces w).foldlM (step minify) n =
      match Entity.decode w with
      | .ok content => .ok (n.extend (textNodes minify content ⟨n.offset, stop⟩) stop)
      | .error fault => .error ⟨⟨n.offset, stop⟩, .reference fault⟩ := by
  intro stop
  cases w with
  | nil =>
      have hdecode : Entity.decode [] = .ok [] := Entity.decode_of_not_mem nofun
      rw [hdecode]
      cases minify <;> exact congrArg Except.ok n.extend_nil.symm
  | cons c w =>
      rw [textPieces, List.foldlM_cons, step, take]
      cases Entity.decode (c :: w) with
      | error fault => rfl
      | ok content => exact congrArg Except.ok (appendText_eq_extend minify n content _ stop)

end Nesting

/-! ### Gaps -/

/-- The characters are one text or nothing, and stand for white space. -/
structure Gap (w : List Char) : Prop where
  /-- No markup stands there. -/
  no_markup : '<' ∉ w
  /-- The text is blank. -/
  blank : ∃ content, Entity.decode w = .ok content ∧ content.all Text.isBlank = true

theorem gap_nil : Gap [] :=
  ⟨List.not_mem_nil, [], Entity.decode_of_not_mem List.not_mem_nil, rfl⟩

/-- Gaps that meet are a gap. -/
theorem Gap.append {v w : List Char} (hv : Gap v) (hw : Gap w) : Gap (v ++ w) := by
  obtain ⟨as, has, hblank⟩ := hv.blank
  obtain ⟨bs, hbs, hblank'⟩ := hw.blank
  refine ⟨fun h => ?_, as ++ bs, decode_append has hbs, ?_⟩
  · exact (List.mem_append.mp h).elim hv.no_markup hw.no_markup
  · rw [List.all_append, hblank, hblank', Bool.and_self]

/-! ### Closed rows of pieces -/

/-- The pieces begin and end with markup, so that every text can come after them. -/
structure Closed (ps : List Piece) : Prop where
  /-- A text that stands before the pieces ends there. -/
  endsText : EndsText (ps.flatMap Piece.source)
  /-- The text after the pieces is read for itself. -/
  pieces_append (after : List Char) :
    pieces (ps.flatMap Piece.source ++ after) = (ps ++ (pieces after).1, (pieces after).2)

theorem closed_nil : Closed [] := ⟨nofun, fun _ => rfl⟩

/-- Closed pieces end a text that stands before them. -/
theorem Closed.endsText_append {ps : List Piece} (h : Closed ps) (hps : ps ≠ [])
    (after : List Char) : EndsText (ps.flatMap Piece.source ++ after) := by
  obtain ⟨p, ps, rfl⟩ := List.exists_cons_of_ne_nil hps
  obtain ⟨c, cs, hp⟩ := List.exists_cons_of_ne_nil p.source_ne_nil
  have hends := h.endsText
  simp only [EndsText, List.flatMap_cons, hp, List.cons_append] at hends ⊢
  exact hends

/-- A text without brackets that ends a text is empty. -/
theorem EndsText.eq_nil_of_not_mem {w cs : List Char} (h : EndsText (w ++ cs)) (hw : '<' ∉ w) :
    w = [] := by
  cases w with
  | nil => rfl
  | cons c w => exact absurd (h c rfl ▸ List.mem_cons_self) hw

/-- Markup before a closed row, with a text between them, makes a closed row. -/
theorem Closed.cons {p : Piece} {w : List Char} {ps : List Piece}
    (hp : ∀ after, ∃ cs, p.source ++ after = '<' :: cs ∧ Piece.read '<' cs = .ok (p, after))
    (hw : '<' ∉ w) (h : Closed ps) (hps : ps = [] → w = []) :
    Closed (p :: (textPieces w ++ ps)) := by
  have hsource : (p :: (textPieces w ++ ps)).flatMap Piece.source =
      p.source ++ (w ++ ps.flatMap Piece.source) := by
    rw [List.flatMap_cons, List.flatMap_append, flatMap_source_textPieces]
  refine ⟨?_, fun after => ?_⟩
  · obtain ⟨cs, hcs, -⟩ := hp (w ++ ps.flatMap Piece.source)
    rw [hsource, hcs]
    exact endsText_cons cs
  · have hrest : pieces (w ++ (ps.flatMap Piece.source ++ after)) =
        (textPieces w ++ (ps ++ (pieces after).1), (pieces after).2) := by
      by_cases hnil : ps = []
      · rw [hps hnil, hnil]; rfl
      · rw [pieces_textPieces hw (h.endsText_append hnil after), h.pieces_append]
    obtain ⟨cs, hcs, hread⟩ := hp (w ++ (ps.flatMap Piece.source ++ after))
    rw [hsource, List.append_assoc, List.append_assoc, hcs, pieces_of_read hread, hrest,
      List.cons_append, List.append_assoc]

/-- **A text is markup between two gaps**, or a gap. -/
theorem exists_closed_of_pieces {cs : List Char} {ps : List Piece} (h : pieces cs = (ps, none)) :
    ∃ lead body trail, cs = lead ++ (body.flatMap Piece.source ++ trail) ∧ '<' ∉ lead ∧
      '<' ∉ trail ∧ Closed body ∧ (body = [] → trail = []) ∧
      ps = textPieces lead ++ (body ++ textPieces trail) := by
  induction ps generalizing cs with
  | nil => exact ⟨[], [], [], (flatMap_source_of_pieces h).symm, List.not_mem_nil,
      List.not_mem_nil, closed_nil, fun _ => rfl, rfl⟩
  | cons p ps ih =>
      obtain ⟨c, cs', rest, rfl, hread, hrest⟩ := exists_read_of_pieces_eq_cons h
      obtain ⟨lead, body, trail, rfl, hlead, htrail, hbody, hnone, rfl⟩ := ih hrest
      have hsource := Piece.source_append_of_read hread
      rw [Piece.read] at hread
      split at hread
      · rename_i hc
        have hp : ∀ after, ∃ cs, p.source ++ after = '<' :: cs ∧
            Piece.read '<' cs = .ok (p, after) := by
          intro after
          obtain ⟨cs, hcs, hread'⟩ := Piece.readMarkup_append hread after
          exact ⟨cs, hcs, by rw [Piece.read, if_pos rfl, hread']⟩
        by_cases hnil : body = []
        · -- what comes behind the markup is the gap at the end
          have htrail : trail = [] := hnone hnil
          subst hnil htrail
          have hone : Closed [p] := Closed.cons hp List.not_mem_nil closed_nil fun _ => rfl
          exact ⟨[], [p], lead, by simpa using hsource.symm, List.not_mem_nil, hlead, hone,
            fun h => absurd h (List.cons_ne_nil _ _), by simp [textPieces]⟩
        · refine ⟨[], p :: (textPieces lead ++ body), trail, ?_, List.not_mem_nil, htrail,
            hbody.cons hp hlead fun h => absurd h hnil, fun h => absurd h (List.cons_ne_nil _ _),
            by simp [textPieces]⟩
          rw [← hsource, List.flatMap_cons, List.flatMap_append, flatMap_source_textPieces]
          simp
      · -- behind a text comes markup, or nothing
        rename_i hc
        simp only [Except.ok.injEq, Prod.mk.injEq] at hread
        obtain ⟨rfl, htext⟩ := hread
        have hends := endsText_dropWhile cs'
        rw [htext] at hends
        have hlead' : lead = [] := hends.eq_nil_of_not_mem hlead
        subst hlead'
        refine ⟨c :: cs'.takeWhile (· != '<'), body, trail, hsource.symm, ?_, htrail, hbody, hnone,
          rfl⟩
        refine fun hmem => ?_
        rcases List.mem_cons.mp hmem with heq | hmem
        · exact hc heq.symm
        · simpa using List.all_eq_true.mp List.all_takeWhile _ hmem

end MarkupTemplates.Markup
