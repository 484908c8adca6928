import Mathlib
import MarkupTemplates.Proofs.Markup.Normal
import MarkupTemplates.Proofs.Text.Trimmed

/-!
# The symbols of a text

The symbols of a text do not depend on where the text begins (`symbolsOf`).  A token that is complete
is read the same whatever follows it, unless the next character continues it (`scan_extend`).

* `stop_of_getLast?`: the last token ends with the text, if the text does not end with a blank.
* `symbolsOf_of_spaced`: symbols that are written one after the other, with any blanks between them,
  are read back, if none of them runs together with the next.
* `symbolsOf_trimList`: blanks at the ends of a text hold no symbol, if all its symbols are known.
-/

namespace MarkupTemplates.Path

open Markup (isName)
open Text (isBlank byteLength trimList)

variable {symbol : Symbol} {symbols : List Symbol} {c d : Char} {cs gap text more rest : List Char}

/-! ### The symbols of a text -/

/-- The symbols of a text. -/
def symbolsOf (cs : List Char) : List Symbol := (tokensFrom 0 cs).map (·.symbol)

theorem tokensFrom_nil (offset : Nat) : tokensFrom offset [] = [] := by rw [tokensFrom]

theorem tokensFrom_blank (h : c.isWhitespace = true) (offset : Nat) :
    tokensFrom offset (c :: cs) = tokensFrom (offset + c.utf8Size) cs := by
  rw [tokensFrom, if_pos h]

/-- Where a token begins it is scanned, and the others follow behind it. -/
theorem tokensFrom_token (h : c.isWhitespace = false) (offset : Nat) :
    tokensFrom offset (c :: cs) =
      ⟨(scan c cs).symbol, ⟨offset, offset + byteLength (c :: (scan c cs).tail)⟩⟩ ::
        tokensFrom (offset + byteLength (c :: (scan c cs).tail)) (scan c cs).rest := by
  rw [tokensFrom, if_neg (by simp [h])]

/-- What holds of the empty text, and passes to a text from behind its first blank or token, holds
of all texts. -/
theorem text_induction {P : List Char → Prop} (nil : P [])
    (blank : ∀ c cs, c.isWhitespace = true → P cs → P (c :: cs))
    (token : ∀ c cs, c.isWhitespace = false → P (scan c cs).rest → P (c :: cs))
    (cs : List Char) : P cs := by
  suffices h : ∀ _offset : Nat, P cs from h 0
  intro offset
  fun_induction tokensFrom offset cs with
  | case1 => exact nil
  | case2 offset c cs h ih => exact blank c cs h ih
  | case3 offset c cs h scanned stop ih => exact token c cs (by simpa using h) ih

/-- **The symbols of a text** are the same wherever it begins. -/
theorem map_symbol_tokensFrom (offset : Nat) (cs : List Char) :
    (tokensFrom offset cs).map (·.symbol) = symbolsOf cs := by
  suffices h : ∀ a b, (tokensFrom a cs).map (·.symbol) = (tokensFrom b cs).map (·.symbol) from
    h offset 0
  induction cs using text_induction with
  | nil => intro a b; rw [tokensFrom_nil, tokensFrom_nil]
  | blank c cs h ih =>
      intro a b
      rw [tokensFrom_blank h, tokensFrom_blank h]
      exact ih _ _
  | token c cs h ih =>
      intro a b
      rw [tokensFrom_token h, tokensFrom_token h, List.map_cons, List.map_cons]
      exact congrArg _ (ih _ _)

@[simp] theorem symbolsOf_nil : symbolsOf [] = [] := by rw [symbolsOf, tokensFrom_nil]; rfl

theorem symbolsOf_blank (h : c.isWhitespace = true) : symbolsOf (c :: cs) = symbolsOf cs := by
  rw [symbolsOf, tokensFrom_blank h, map_symbol_tokensFrom]

theorem symbolsOf_token (h : c.isWhitespace = false) :
    symbolsOf (c :: cs) = (scan c cs).symbol :: symbolsOf (scan c cs).rest := by
  rw [symbolsOf, tokensFrom_token h, List.map_cons, map_symbol_tokensFrom]

/-- Blanks before symbols make no difference. -/
theorem symbolsOf_gap (h : ∀ c ∈ gap, c.isWhitespace = true) :
    symbolsOf (gap ++ cs) = symbolsOf cs := by
  induction gap with
  | nil => rfl
  | cons c gap ih =>
      obtain ⟨hc, hgap⟩ := List.forall_mem_cons.mp h
      rw [List.cons_append, symbolsOf_blank hc, ih hgap]

/-! ### The end of the last token -/

theorem tokensFrom_ne_nil (hc : c ∈ cs) (hblank : c.isWhitespace = false) (offset : Nat) :
    tokensFrom offset cs ≠ [] := by
  induction cs using text_induction generalizing offset with
  | nil => cases hc
  | blank d cs h ih =>
      rw [tokensFrom_blank h]
      rcases List.mem_cons.mp hc with rfl | hc
      · rw [h] at hblank; cases hblank
      · exact ih hc _
  | token d cs h ih => rw [tokensFrom_token h]; exact List.cons_ne_nil _ _

/-- **The last token ends with the text**, if the text does not end with a blank. -/
theorem stop_of_getLast? {offset : Nat} {last : Token}
    (hend : ∀ c ∈ cs.getLast?, c.isWhitespace = false)
    (hlast : last ∈ (tokensFrom offset cs).getLast?) :
    last.span.stop = offset + byteLength cs := by
  induction cs using text_induction generalizing offset with
  | nil => rw [tokensFrom_nil] at hlast; cases hlast
  | blank c cs h ih =>
      rw [tokensFrom_blank h] at hlast
      cases cs with
      | nil => rw [tokensFrom_nil] at hlast; cases hlast
      | cons d cs =>
          rw [List.getLast?_cons_cons] at hend
          rw [ih hend hlast, Text.byteLength_cons (c := c), Nat.add_assoc]
  | token c cs h ih =>
      rw [tokensFrom_token h] at hlast
      have hsplit : c :: cs = c :: (scan c cs).tail ++ (scan c cs).rest := by
        rw [List.cons_append, scan_append]
      cases hrest : (scan c cs).rest with
      | nil =>
          rw [hrest, tokensFrom_nil] at hlast
          rw [hrest, List.append_nil] at hsplit
          cases hlast
          rw [← hsplit]
          rfl
      | cons d rest =>
          -- the text ends with the rest, which has a token of its own
          have hsame : (c :: cs).getLast? = (d :: rest).getLast? := by
            rw [hsplit, hrest, List.getLast?_append_of_ne_nil _ (List.cons_ne_nil d rest)]
          rw [hrest] at ih hlast
          rw [hsame] at hend
          obtain ⟨e, he⟩ : ∃ e, (d :: rest).getLast? = some e := ⟨_, List.getLast?_cons⟩
          have hne := tokensFrom_ne_nil (List.mem_of_getLast? he) (hend e he)
            (offset + byteLength (c :: (scan c cs).tail))
          obtain ⟨token, tokens, htokens⟩ := List.exists_cons_of_ne_nil hne
          rw [htokens, List.getLast?_cons_cons, ← htokens] at hlast
          rw [ih hend hlast, hsplit, hrest, Text.byteLength_append, Nat.add_assoc]

/-! ### What follows a token -/

/-- Whether a character directly behind a symbol would belong to its token. -/
def Symbol.continues : Symbol → Char → Bool
  | .slash, c => c == '/'
  | .name _, c => isNameChar c
  | _, _ => false

theorem isBlank_of_isNameChar (h : isNameChar c = true) : isBlank c = false := by
  have hrange : 0x2D ≤ c.toNat ∧ c.toNat ≤ 0x7A := by
    simp only [isNameChar, Char.isAlphanum, Char.isAlpha, Char.isUpper, Char.isLower, Char.isDigit,
      Bool.or_eq_true, Bool.and_eq_true, decide_eq_true_eq, beq_iff_eq, ge_iff_le,
      UInt32.le_iff_toNat_le] at h
    rcases h with (((((⟨h, h'⟩ | ⟨h, h'⟩) | ⟨h, h'⟩) | rfl) | rfl) | rfl) | rfl
    all_goals first | decide | exact ⟨Nat.le_trans (by decide) h, Nat.le_trans h' (by decide)⟩
  simp [isBlank, Text.inRanges, Text.blankRanges]
  omega

/-- A blank continues no token. -/
theorem Symbol.continues_of_isBlank (symbol : Symbol) (h : isBlank d = true) :
    symbol.continues d = false := by
  cases symbol with
  | slash =>
      refine beq_eq_false_iff_ne.mpr ?_
      rintro rfl
      exact absurd h (by decide)
  | name text =>
      rw [continues, Bool.eq_false_iff]
      intro hname
      rw [isBlank_of_isNameChar hname] at h
      cases h
  | _ => rfl

/-- A run of characters ends where the text that follows does not go on with it. -/
theorem takeWhile_append_of_head {p : Char → Bool} (cs : List Char)
    (h : ∀ d ∈ more.head?, p d = false) :
    (cs ++ more).takeWhile p = cs.takeWhile p ∧
      (cs ++ more).dropWhile p = cs.dropWhile p ++ more := by
  induction cs with
  | nil =>
      cases more with
      | nil => exact ⟨rfl, rfl⟩
      | cons d more => simp [h d rfl]
  | cons c cs ih =>
      by_cases hc : p c = true
      · simp [hc, ih.1, ih.2]
      · simp [hc]

/-- A string runs up to its own quote. -/
theorem scanString_closed {quote : Char} {body : List Char} (h : quote ∉ body)
    (rest : List Char) : scanString quote (body ++ quote :: rest) =
      ⟨.string (String.ofList body), body ++ [quote], rest⟩ := by
  have hbody : ∀ c ∈ body, (c != quote) = true := fun c hc => bne_iff_ne.mpr fun e => h (e ▸ hc)
  rw [scanString, List.dropWhile_append_of_pos hbody, List.takeWhile_append_of_pos hbody]
  simp

/-- A string that is not closed takes in the rest of the text, and is unknown. -/
theorem scanString_open {quote : Char} (h : quote ∉ cs) :
    scanString quote cs = ⟨.unknown, cs, []⟩ := by
  rw [scanString, List.dropWhile_eq_nil_iff.mpr]
  exact fun c hc => bne_iff_ne.mpr fun e => h (e ▸ hc)

/-- A string that is closed ends with its first quote, whatever follows. -/
theorem scanString_extend {quote : Char} (h : (scanString quote cs).symbol ≠ .unknown) :
    scanString quote (cs ++ more) =
      ⟨(scanString quote cs).symbol, (scanString quote cs).tail,
        (scanString quote cs).rest ++ more⟩ := by
  by_cases hquote : quote ∈ cs
  · obtain ⟨body, rest, rfl, hbody⟩ := List.eq_append_cons_of_mem hquote
    rw [scanString_closed hbody, List.append_assoc, List.cons_append, scanString_closed hbody]
  · rw [scanString_open hquote] at h
    exact absurd rfl h

theorem scan_slash (h : ∀ rest, cs ≠ '/' :: rest) : scan '/' cs = ⟨.slash, [], cs⟩ := by
  rw [scan]
  exact h

/-- A name runs as far as there are characters of names. -/
theorem scan_name (h : isNameStart c = true) (cs : List Char) :
    scan c cs = ⟨.name (String.ofList (c :: cs.takeWhile isNameChar)), cs.takeWhile isNameChar,
      cs.dropWhile isNameChar⟩ := by
  fun_cases scan c cs with
  | case11 => rw [if_pos h]
  | case12 => exact absurd h ‹¬ isNameStart c = true›
  | _ => exact absurd h (by decide)

/-- **A token that is complete** is read the same before any text that does not continue it. -/
theorem scan_extend (h : (scan c cs).symbol ≠ .unknown)
    (hnext : ∀ d ∈ more.head?, (scan c cs).symbol.continues d = false) :
    scan c (cs ++ more) =
      ⟨(scan c cs).symbol, (scan c cs).tail, (scan c cs).rest ++ more⟩ := by
  revert h hnext
  fun_cases scan c cs with
  | case1 rest => intro _ _; rfl
  | case2 cs hcs =>
      intro _ hnext
      refine scan_slash fun rest hrest => ?_
      -- the second slash would be in the text before, or continue it
      cases cs with
      | nil =>
          rw [List.nil_append] at hrest
          exact absurd (hnext '/' (by rw [hrest]; rfl)) (by decide)
      | cons d cs => cases hrest; exact hcs cs rfl
  | case9 => intro h _; exact scanString_extend h
  | case10 => intro h _; exact scanString_extend h
  | case11 =>
      intro _ hnext
      have hstart : isNameStart c = true := ‹_›
      rw [if_pos hstart] at hnext ⊢
      obtain ⟨htake, hdrop⟩ := takeWhile_append_of_head (p := isNameChar) cs hnext
      rw [scan_name hstart, htake, hdrop]
  | case12 =>
      intro h _
      rw [if_neg ‹¬ isNameStart c = true›] at h
      exact absurd rfl h
  | _ => intro _ _; rfl

/-! ### Writing symbols -/

/-- A text that is read as the symbol, if nothing continues it. -/
inductive Symbol.WrittenAs : Symbol → List Char → Prop where
  | slash : WrittenAs .slash ['/']
  | doubleSlash : WrittenAs .doubleSlash ['/', '/']
  | dot : WrittenAs .dot ['.']
  | star : WrittenAs .star ['*']
  | openBracket : WrittenAs .openBracket ['[']
  | closeBracket : WrittenAs .closeBracket [']']
  | at : WrittenAs .at ['@']
  | equals : WrittenAs .equals ['=']
  /-- A name is written as it is. -/
  | name {text : String} (h : isName text = true) : WrittenAs (.name text) text.toList
  /-- A string is written between two quotes of a kind that it does not contain. -/
  | string {text : String} {quote : Char} (hquote : quote = '"' ∨ quote = '\'')
      (h : quote ∉ text.toList) : WrittenAs (.string text) (quote :: (text.toList ++ [quote]))

/-- The text is made of the symbols, written one after the other, with spaces, tabs and line breaks
between them, before the first and after the last, in any number. -/
inductive Spaced : List Symbol → List Char → Prop where
  /-- Behind the last symbol there are only blanks. -/
  | nil (gap : List Char) (hgap : ∀ c ∈ gap, c.isWhitespace = true) : Spaced [] gap
  /-- Blanks, a symbol, and the others. -/
  | cons {symbol : Symbol} {symbols : List Symbol} {text rest : List Char} (gap : List Char)
      (hgap : ∀ c ∈ gap, c.isWhitespace = true) (h : symbol.WrittenAs text)
      (hrest : Spaced symbols rest) : Spaced (symbol :: symbols) (gap ++ (text ++ rest))

/-- A token is read as the symbol it writes. -/
theorem Symbol.WrittenAs.scan_eq (h : symbol.WrittenAs text) :
    ∃ c tail, text = c :: tail ∧ c.isWhitespace = false ∧ symbol ≠ .unknown ∧
      scan c tail = ⟨symbol, tail, []⟩ := by
  cases h with
  | name h =>
      obtain ⟨c, cs, hname, hstart, hcs⟩ := Markup.exists_cons_of_isName h
      have hblank := Markup.isWhitespace_of_isNameChar (Markup.isNameChar_of_isNameStart hstart)
      refine ⟨c, cs, hname, hblank, nofun, ?_⟩
      rw [scan_name hstart, List.takeWhile_eq_self_iff.mpr hcs, List.dropWhile_eq_nil_iff.mpr hcs,
        ← hname, String.ofList_toList]
  | string hquote h =>
      refine ⟨_, _, rfl, ?_, nofun, ?_⟩
      · rcases hquote with rfl | rfl <;> decide
      · have hclosed := scanString_closed h []
        rw [String.ofList_toList] at hclosed
        rcases hquote with rfl | rfl <;> exact hclosed
  | _ => exact ⟨_, _, rfl, by decide, nofun, rfl⟩

/-- The first character of spaced symbols is a blank or begins the first symbol. -/
theorem Spaced.head (h : Spaced symbols text) (hd : d ∈ text.head?) :
    d.isWhitespace = true ∨ ∃ symbol ∈ symbols.head?, ∃ tail, symbol.WrittenAs (d :: tail) := by
  cases h with
  | nil gap hgap => exact .inl (hgap d (List.mem_of_mem_head? hd))
  | @cons symbol symbols token rest gap hgap hwritten hrest =>
      cases gap with
      | nil =>
          obtain ⟨c, tail, rfl, -⟩ := hwritten.scan_eq
          cases hd
          exact .inr ⟨symbol, rfl, tail, hwritten⟩
      | cons c gap =>
          cases hd
          exact .inl (hgap d List.mem_cons_self)

/-- The second symbol, written directly behind the first, would continue it. -/
def Symbol.Joins (a b : Symbol) : Prop :=
  ∃ c tail, b.WrittenAs (c :: tail) ∧ a.continues c = true

/-- **Symbols written one after the other are read back**, if none runs together with the next. -/
theorem symbolsOf_of_spaced (h : Spaced symbols text)
    (hapart : symbols.IsChain fun a b => ¬ a.Joins b) : symbolsOf text = symbols := by
  induction h with
  | nil gap hgap =>
      have hempty : symbolsOf (gap ++ []) = symbolsOf [] := symbolsOf_gap hgap
      rwa [List.append_nil, symbolsOf_nil] at hempty
  | @cons symbol symbols token rest gap hgap hwritten hrest ih =>
      obtain ⟨hnext, hchain⟩ := List.isChain_cons.mp hapart
      obtain ⟨c, tail, rfl, hblank, hknown, hscan⟩ := hwritten.scan_eq
      have hcontinues : ∀ d ∈ rest.head?, symbol.continues d = false := by
        intro d hd
        rcases hrest.head hd with hd | ⟨next, hnextmem, after, hafter⟩
        · exact symbol.continues_of_isBlank (Text.isBlank_of_isWhitespace hd)
        · rw [Bool.eq_false_iff]
          exact fun hc => hnext next hnextmem ⟨d, after, hafter, hc⟩
      have hextend : scan c (tail ++ rest) = ⟨symbol, tail, [] ++ rest⟩ := by
        rw [scan_extend (by rw [hscan]; exact hknown) (by rw [hscan]; exact hcontinues), hscan]
      rw [symbolsOf_gap hgap, List.cons_append, symbolsOf_token hblank, hextend, List.nil_append,
        ih hchain]

/-! ### Blanks at the ends -/

/-- A blank that is no separator begins no token. -/
theorem symbol_scan_of_isBlank (h : isBlank c = true) (hblank : c.isWhitespace = false)
    (cs : List Char) : (scan c cs).symbol = .unknown := by
  fun_cases scan c cs with
  | case11 =>
      have hstart : isNameStart c = true := ‹_›
      rw [isBlank_of_isNameChar (Markup.isNameChar_of_isNameStart hstart)] at h
      cases h
  | case12 => rw [if_neg ‹¬ isNameStart c = true›]
  | _ => exact absurd h (by decide)

/-- Blanks before a text hold no symbol, if all symbols are known. -/
theorem symbolsOf_append_left {blanks : List Char} (hblank : ∀ c ∈ blanks, isBlank c = true)
    (hknown : .unknown ∉ symbolsOf (blanks ++ cs)) : symbolsOf (blanks ++ cs) = symbolsOf cs := by
  induction blanks with
  | nil => rfl
  | cons c blanks ih =>
      obtain ⟨hc, hblanks⟩ := List.forall_mem_cons.mp hblank
      rw [List.cons_append] at hknown ⊢
      cases hw : c.isWhitespace with
      | true =>
          rw [symbolsOf_blank hw] at hknown ⊢
          exact ih hblanks hknown
      | false =>
          rw [symbolsOf_token hw, symbol_scan_of_isBlank hc hw] at hknown
          exact absurd List.mem_cons_self hknown

theorem symbol_scanString_append {quote : Char} (h : (scanString quote cs).symbol = .unknown)
    (hmore : quote ∉ more) : (scanString quote (cs ++ more)).symbol = .unknown := by
  by_cases hquote : quote ∈ cs
  · obtain ⟨body, rest, rfl, hbody⟩ := List.eq_append_cons_of_mem hquote
    rw [scanString_closed hbody] at h
    cases h
  · rw [scanString_open (by simp [hquote, hmore])]

/-- A token that is not complete stays so if no quote follows. -/
theorem symbol_scan_append (h : (scan c cs).symbol = .unknown) (hdouble : '"' ∉ more)
    (hsingle : '\'' ∉ more) : (scan c (cs ++ more)).symbol = .unknown := by
  revert h
  fun_cases scan c cs with
  | case9 => intro h; exact symbol_scanString_append h hdouble
  | case10 => intro h; exact symbol_scanString_append h hsingle
  | case11 => rw [if_pos ‹isNameStart c = true›]; nofun
  | case12 =>
      intro _
      unfold scan
      split <;> simp_all
  | _ => nofun

/-- Blanks behind a text hold no symbol, if all symbols are known. -/
theorem symbolsOf_append_right {blanks : List Char} (hblank : ∀ c ∈ blanks, isBlank c = true)
    (hknown : .unknown ∉ symbolsOf (cs ++ blanks)) : symbolsOf (cs ++ blanks) = symbolsOf cs := by
  induction cs using text_induction with
  | nil =>
      rw [List.nil_append, ← List.append_nil blanks] at hknown ⊢
      exact symbolsOf_append_left hblank hknown
  | blank c cs hw ih =>
      rw [List.cons_append, symbolsOf_blank hw] at hknown ⊢
      rw [symbolsOf_blank hw]
      exact ih hknown
  | token c cs hw ih =>
      have hno : ∀ d, isBlank d = false → d ∉ blanks := fun d hd hmem => by
        rw [hblank d hmem] at hd
        cases hd
      rw [List.cons_append, symbolsOf_token hw, List.mem_cons, not_or] at hknown
      have hsymbol : (scan c cs).symbol ≠ .unknown := fun h =>
        hknown.1 (symbol_scan_append h (hno _ (by decide)) (hno _ (by decide))).symm
      have hnext : ∀ d ∈ blanks.head?, (scan c cs).symbol.continues d = false := fun d hd =>
        (scan c cs).symbol.continues_of_isBlank (hblank d (List.mem_of_mem_head? hd))
      have hextend := scan_extend hsymbol hnext
      rw [hextend] at hknown
      rw [List.cons_append, symbolsOf_token hw, symbolsOf_token hw, hextend, ih hknown.2]

/-- **Trimming takes no symbol from a text**, if all symbols are known. -/
theorem symbolsOf_trimList (hknown : .unknown ∉ symbolsOf cs) :
    symbolsOf (trimList cs) = symbolsOf cs := by
  obtain ⟨front, back, hsplit, hfront, hback⟩ := Text.exists_append_trimList cs
  rw [hsplit] at hknown
  have hright := symbolsOf_append_right hback hknown
  rw [hright] at hknown
  calc symbolsOf (trimList cs) = symbolsOf (front ++ trimList cs) :=
        (symbolsOf_append_left hfront hknown).symm
    _ = symbolsOf (front ++ trimList cs ++ back) := hright.symm
    _ = symbolsOf cs := by rw [← hsplit]

end MarkupTemplates.Path
