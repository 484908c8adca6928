import Mathlib
import MarkupTemplates.Proofs.Path.Lexing

/-!
# The tokens tile the text

The text of a path is made up of its tokens and of spaces, tabs and line breaks between them
(`Tiles`, `tiles_tokensFrom`).  Each token is the longest that is written where it begins; where none
is, it is the character there, or all that is left if this is a quote that is never closed
(`Symbol.Heads`, `heads_scan`).

From the tiling follows where the tokens stand (`tokens_tile`): they are not empty and do not
overlap, they begin and end between characters, and no other character is left out.
-/

namespace MarkupTemplates.Path

open Markup (isName)
open Text (byteLength)

variable {symbol : Symbol} {c quote : Char} {cs text body : List Char}

/-! ### The token where a text begins -/

/-- No token is written where the text begins. -/
def Unwritten (cs : List Char) : Prop :=
  ∀ (symbol : Symbol) (text : List Char), symbol.WrittenAs text → ¬ text <+: cs

/-- The slice is the token that stands where the text made up of it and the rest begins. -/
inductive Symbol.Heads : Symbol → List Char → List Char → Prop where
  /-- It is the longest token that is written there. -/
  | written {symbol : Symbol} {slice rest : List Char} (h : symbol.WrittenAs slice)
      (longest : ∀ (other : Symbol) (text : List Char), other.WrittenAs text →
        text <+: slice ++ rest → text.length ≤ slice.length) : Heads symbol slice rest
  /-- It is a quote that is never closed, with all that follows. -/
  | unclosed {quote : Char} {body : List Char} (hquote : quote = '"' ∨ quote = '\'')
      (h : quote ∉ body) (hnone : Unwritten (quote :: body)) : Heads .unknown (quote :: body) []
  /-- It is a character that begins no token, by itself. -/
  | stray {c : Char} {rest : List Char} (hblank : c.isWhitespace = false)
      (hquote : c ≠ '"' ∧ c ≠ '\'') (hnone : Unwritten (c :: rest)) : Heads .unknown [c] rest

theorem scan_quote (h : quote = '"' ∨ quote = '\'') (cs : List Char) :
    scan quote cs = scanString quote cs := by
  rcases h with rfl | rfl
  · rfl
  · rfl

/-- **No token is written that is longer than the one that is read.** -/
theorem length_le_of_writtenAs (h : symbol.WrittenAs text) (hbegins : text <+: c :: cs) :
    (scan c cs).symbol ≠ .unknown ∧ text.length ≤ (c :: (scan c cs).tail).length := by
  cases h with
  | slash =>
      obtain ⟨rfl, -⟩ := List.cons_prefix_cons.mp hbegins
      by_cases hslash : ∃ rest, cs = '/' :: rest
      · obtain ⟨rest, rfl⟩ := hslash
        exact ⟨nofun, Nat.le_add_left _ _⟩
      · rw [scan_slash fun rest hrest => hslash ⟨rest, hrest⟩]
        exact ⟨nofun, Nat.le_refl _⟩
  | doubleSlash =>
      obtain ⟨rfl, hrest⟩ := List.cons_prefix_cons.mp hbegins
      obtain ⟨rest, rfl⟩ := hrest
      exact ⟨nofun, Nat.le_refl _⟩
  | name hname =>
      obtain ⟨d, ds, htext, hstart, hds⟩ := Markup.exists_cons_of_isName hname
      rw [htext] at hbegins ⊢
      obtain ⟨rfl, rest, rfl⟩ := List.cons_prefix_cons.mp hbegins
      have htail : ds <+: (ds ++ rest).takeWhile isNameChar := by
        rw [List.takeWhile_append_of_pos hds]
        exact List.prefix_append _ _
      rw [scan_name hstart]
      exact ⟨nofun, Nat.succ_le_succ htail.length_le⟩
  | string hquote hbody =>
      obtain ⟨rfl, rest, rfl⟩ := List.cons_prefix_cons.mp hbegins
      rw [scan_quote hquote, List.append_assoc, List.singleton_append, scanString_closed hbody]
      exact ⟨nofun, Nat.le_refl _⟩
  | _ =>
      obtain ⟨rfl, -⟩ := List.cons_prefix_cons.mp hbegins
      exact ⟨nofun, Nat.le_refl _⟩

/-- Where the scan finds no symbol, no token could be written. -/
theorem unwritten_of_scan (h : (scan c cs).symbol = .unknown) : Unwritten (c :: cs) :=
  fun _ _ hwritten hbegins => (length_le_of_writtenAs hwritten hbegins).1 h

/-- A string that is closed is scanned as it is written. -/
theorem writtenAs_scanString (hquote : quote = '"' ∨ quote = '\'')
    (h : (scanString quote cs).symbol ≠ .unknown) :
    (scanString quote cs).symbol.WrittenAs (quote :: (scanString quote cs).tail) := by
  by_cases hmem : quote ∈ cs
  · obtain ⟨body, rest, rfl, hbody⟩ := List.eq_append_cons_of_mem hmem
    have hwritten : (Symbol.string (String.ofList body)).WrittenAs
        (quote :: ((String.ofList body).toList ++ [quote])) :=
      .string hquote (by rwa [String.toList_ofList])
    rw [scanString_closed hbody]
    rwa [String.toList_ofList] at hwritten
  · rw [scanString_open hmem] at h
    exact absurd rfl h

/-- A token that is known is written as its symbol. -/
theorem writtenAs_scan (h : (scan c cs).symbol ≠ .unknown) :
    (scan c cs).symbol.WrittenAs (c :: (scan c cs).tail) := by
  revert h
  fun_cases scan c cs with
  | case1 => exact fun _ => .doubleSlash
  | case2 => exact fun _ => .slash
  | case3 => exact fun _ => .dot
  | case4 => exact fun _ => .star
  | case5 => exact fun _ => .openBracket
  | case6 => exact fun _ => .closeBracket
  | case7 => exact fun _ => .at
  | case8 => exact fun _ => .equals
  | case9 => exact writtenAs_scanString (.inl rfl)
  | case10 => exact writtenAs_scanString (.inr rfl)
  | case11 =>
      intro _
      have hstart : isNameStart c = true := ‹_›
      have hname : isName (String.ofList (c :: cs.takeWhile isNameChar)) = true := by
        rw [isName, String.toList_ofList, Bool.and_eq_true, List.all_eq_true]
        exact ⟨hstart, fun d hd => List.mem_takeWhile_imp hd⟩
      have hwritten := Symbol.WrittenAs.name hname
      rw [String.toList_ofList] at hwritten
      rwa [if_pos hstart]
  | case12 =>
      rw [if_neg ‹¬ isNameStart c = true›]
      exact fun h => absurd rfl h

/-- A string that is not closed heads the text as an unknown symbol. -/
theorem heads_scanString (hquote : quote = '"' ∨ quote = '\'')
    (h : (scanString quote cs).symbol = .unknown) :
    Symbol.Heads .unknown (quote :: (scanString quote cs).tail) (scanString quote cs).rest := by
  have hnone : Unwritten (quote :: cs) := unwritten_of_scan (by rwa [scan_quote hquote])
  by_cases hmem : quote ∈ cs
  · obtain ⟨body, rest, rfl, hbody⟩ := List.eq_append_cons_of_mem hmem
    rw [scanString_closed hbody] at h
    cases h
  · rw [scanString_open hmem]
    exact .unclosed hquote hmem hnone

/-- A token that is not known is a stray character or a quote that is never closed. -/
theorem heads_of_unknown (hblank : c.isWhitespace = false) (h : (scan c cs).symbol = .unknown) :
    Symbol.Heads .unknown (c :: (scan c cs).tail) (scan c cs).rest := by
  have hnone := unwritten_of_scan h
  revert h
  fun_cases scan c cs with
  | case9 => exact heads_scanString (.inl rfl)
  | case10 => exact heads_scanString (.inr rfl)
  | case11 =>
      rw [if_pos ‹isNameStart c = true›]
      intro h
      cases h
  | case12 =>
      rw [if_neg ‹¬ isNameStart c = true›]
      exact fun _ => .stray hblank ⟨‹c = '"' → False›, ‹c = '\'' → False›⟩ hnone
  | _ => intro h; cases h

/-- **What is read where a text begins** is the longest token that is written there, or else a stray
character or a quote that is never closed. -/
theorem heads_scan (hblank : c.isWhitespace = false) :
    (scan c cs).symbol.Heads (c :: (scan c cs).tail) (scan c cs).rest := by
  by_cases h : (scan c cs).symbol = .unknown
  · rw [h]
    exact heads_of_unknown hblank h
  · refine .written (writtenAs_scan h) fun other text hwritten hbegins => ?_
    rw [List.cons_append, scan_append] at hbegins
    exact (length_le_of_writtenAs hwritten hbegins).2

/-! ### The tiling -/

/-- A text that begins at a byte is made up of the tokens and of separators between them. -/
inductive Tiles : Nat → List Char → List Token → Prop where
  /-- There is nothing left. -/
  | nil {offset : Nat} : Tiles offset [] []
  /-- There is a separator. -/
  | blank {offset : Nat} {c : Char} {cs : List Char} {ts : List Token}
      (hblank : c.isWhitespace = true) (h : Tiles (offset + c.utf8Size) cs ts) :
      Tiles offset (c :: cs) ts
  /-- There is a token. -/
  | token {offset : Nat} {symbol : Symbol} {slice rest : List Char} {ts : List Token}
      (hheads : symbol.Heads slice rest) (h : Tiles (offset + byteLength slice) rest ts) :
      Tiles offset (slice ++ rest) (⟨symbol, ⟨offset, offset + byteLength slice⟩⟩ :: ts)

/-- **The tokens of a text tile it.** -/
theorem tiles_tokensFrom (offset : Nat) (cs : List Char) :
    Tiles offset cs (tokensFrom offset cs) := by
  induction cs using text_induction generalizing offset with
  | nil => rw [tokensFrom_nil]; exact .nil
  | blank c cs h ih => rw [tokensFrom_blank h]; exact .blank h (ih _)
  | token c cs h ih =>
      have htoken := Tiles.token (heads_scan h) (ih (offset + byteLength (c :: (scan c cs).tail)))
      rw [List.cons_append, scan_append] at htoken
      rwa [tokensFrom_token h]

/-- No token is empty. -/
theorem Symbol.Heads.ne_nil {slice rest : List Char} (h : symbol.Heads slice rest) :
    slice ≠ [] := by
  cases h with
  | written h =>
      obtain ⟨c, tail, rfl, -⟩ := h.scan_eq
      exact List.cons_ne_nil c tail
  | unclosed => exact List.cons_ne_nil _ _
  | stray => exact List.cons_ne_nil _ _

namespace Tiles

variable {offset : Nat} {ts : List Token} {t : Token}

theorem offset_le (h : Tiles offset cs ts) (ht : t ∈ ts) : offset ≤ t.span.start := by
  induction h with
  | nil => cases ht
  | blank _ _ ih => exact Nat.le_of_add_right_le (ih ht)
  | token _ _ ih =>
      rcases List.mem_cons.mp ht with rfl | ht
      · exact Nat.le_refl _
      · exact Nat.le_of_add_right_le (ih ht)

/-- The tokens stand one after the other. -/
theorem pairwise (h : Tiles offset cs ts) :
    ts.Pairwise fun t u => t.span.stop ≤ u.span.start := by
  induction h with
  | nil => exact .nil
  | blank _ _ ih => exact ih
  | token _ hrest ih => exact .cons (fun u hu => hrest.offset_le hu) ih

/-- Each token is one that stands where its span begins, and its span cuts it out of the text. -/
theorem heads (h : Tiles offset cs ts) (ht : t ∈ ts) :
    ∃ before slice after, cs = before ++ slice ++ after ∧
      t.span.start = offset + byteLength before ∧
      t.span.stop = offset + byteLength before + byteLength slice ∧ t.symbol.Heads slice after := by
  induction h with
  | nil => cases ht
  | @blank offset c cs ts _ _ ih =>
      obtain ⟨before, slice, after, rfl, hstart, hstop, hheads⟩ := ih ht
      refine ⟨c :: before, slice, after, rfl, ?_, ?_, hheads⟩
      · rw [hstart, Text.byteLength_cons, Nat.add_assoc]
      · rw [hstop, Text.byteLength_cons, Nat.add_assoc offset]
  | @token offset symbol slice rest ts hheads _ ih =>
      rcases List.mem_cons.mp ht with rfl | ht
      · exact ⟨[], slice, rest, rfl, rfl, rfl, hheads⟩
      · obtain ⟨before, other, after, rfl, hstart, hstop, hother⟩ := ih ht
        refine ⟨slice ++ before, other, after, by simp only [List.append_assoc], ?_, ?_, hother⟩
        · rw [hstart, Text.byteLength_append, Nat.add_assoc]
        · rw [hstop, Text.byteLength_append, Nat.add_assoc offset]

/-- A character that is no separator stands in a token. -/
theorem covers (h : Tiles offset cs ts) {before after : List Char} (hcs : cs = before ++ c :: after)
    (hblank : c.isWhitespace = false) :
    ∃ t ∈ ts, t.span.start ≤ offset + byteLength before ∧
      offset + byteLength before + c.utf8Size ≤ t.span.stop := by
  induction h generalizing before with
  | nil => exact absurd hcs.symm (by simp)
  | @blank offset d cs ts hd _ ih =>
      cases before with
      | nil =>
          cases hcs
          rw [hd] at hblank
          cases hblank
      | cons e before =>
          obtain ⟨rfl, rfl⟩ := List.cons.inj hcs
          obtain ⟨t, ht, hstart, hstop⟩ := ih rfl
          rw [Nat.add_assoc offset] at hstart hstop
          exact ⟨t, ht, hstart, hstop⟩
  | @token offset symbol slice rest ts _ _ ih =>
      -- the character stands behind the first token, or in it
      rcases List.append_eq_append_iff.mp hcs with ⟨more, rfl, hrest⟩ | ⟨more, rfl, hmore⟩
      · obtain ⟨t, ht, hstart, hstop⟩ := ih hrest
        rw [Nat.add_assoc offset, ← Text.byteLength_append] at hstart hstop
        exact ⟨t, List.mem_cons_of_mem _ ht, hstart, hstop⟩
      · cases more with
        | nil =>
            have hrest : rest = [] ++ c :: after := hmore.symm
            obtain ⟨t, ht, hstart, hstop⟩ := ih hrest
            rw [List.append_nil, Text.byteLength_nil, Nat.add_zero] at hstart hstop
            exact ⟨t, List.mem_cons_of_mem _ ht, hstart, hstop⟩
        | cons d more =>
            obtain ⟨rfl, rfl⟩ := List.cons.inj hmore
            refine ⟨_, List.mem_cons_self, Nat.le_add_right _ _, ?_⟩
            rw [Text.byteLength_append, Text.byteLength_cons, ← Nat.add_assoc, ← Nat.add_assoc]
            exact Nat.le_add_right _ _

end Tiles

theorem eq_of_isWhitespace (h : c.isWhitespace = true) :
    c = ' ' ∨ c = '\t' ∨ c = '\n' ∨ c = '\r' := by
  simp only [Char.isWhitespace, Bool.or_eq_true, decide_eq_true_eq] at h
  tauto

/-- **The tokens of a path tile its text.**  Their spans are not empty, come in order and do not
overlap.  Each cuts a slice out of the text, between characters of it, which is the longest token
that is written where it begins: a name is its slice, and a string stands between two quotes that it
does not contain.  Where none is written, the slice is one character, or, if that is a quote, the
rest of the text, in which it is never closed.  A character that is not part of a slice is a space, a
tab or the end of a line. -/
theorem tokens_tile (s : String) :
    (∀ t ∈ tokens s, t.span.start < t.span.stop ∧
      ∃ before slice after, s.toList = before ++ slice ++ after ∧
        t.span.start = byteLength before ∧
        t.span.stop = byteLength before + byteLength slice ∧ t.symbol.Heads slice after) ∧
    ((tokens s).Pairwise fun t u => t.span.stop ≤ u.span.start) ∧
    ∀ before c after, s.toList = before ++ c :: after →
      (∃ t ∈ tokens s, t.span.start ≤ byteLength before ∧
        byteLength before + c.utf8Size ≤ t.span.stop) ∨
      c = ' ' ∨ c = '\t' ∨ c = '\n' ∨ c = '\r' := by
  have htiles : Tiles 0 s.toList (tokens s) := tiles_tokensFrom 0 s.toList
  refine ⟨fun t ht => ?_, htiles.pairwise, fun before c after hs => ?_⟩
  · obtain ⟨before, slice, after, hs, hstart, hstop, hheads⟩ := htiles.heads ht
    rw [Nat.zero_add] at hstart hstop
    have hpos := Text.byteLength_pos hheads.ne_nil
    exact ⟨by omega, before, slice, after, hs, hstart, hstop, hheads⟩
  · cases hblank : c.isWhitespace with
    | true => exact .inr (eq_of_isWhitespace hblank)
    | false =>
        obtain ⟨t, ht, hstart, hstop⟩ := htiles.covers hs hblank
        rw [Nat.zero_add] at hstart hstop
        exact .inl ⟨t, ht, hstart, hstop⟩

example : tokens "a .'é" = [⟨.name "a", ⟨0, 1⟩⟩, ⟨.dot, ⟨2, 3⟩⟩, ⟨.unknown, ⟨3, 6⟩⟩] := by cbv

end MarkupTemplates.Path
