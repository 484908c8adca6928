import MarkupTemplates.Markup.Piece
import MarkupTemplates.Markup.Printer
import MarkupTemplates.Markup.Tag
import MarkupTemplates.Proofs.Markup.Attributes
import MarkupTemplates.Proofs.Markup.Normal

/-!
# Reading what was written

What the printer writes for a text, a value and a tag, read alone:

* `decode_escapeText`, `decode_escapeValue`: references are decoded to what was escaped;
* `Proper.passes`: a written tag ends at its own `>`, whatever its values hold;
* `name_tagContent`, `Proper.attributes_eq`: its content is read as the tag and its attributes;
* `Proper.read_opening`, `Proper.read_selfClosing`, `read_closing`, `read_text`: each is read as the
  piece it was written as.
-/

namespace MarkupTemplates.Markup

open MarkupTemplates.Path (isNameStart isNameChar)
open Text (byteLength)

/-! ### Texts and values -/

/-- The ways to write a character so that it is decoded: as it is, or as a reference to it. -/
inductive Stands (c : Char) : List Char → Prop where
  | plain : c ≠ '&' → Stands c [c]
  | reference (name : List Char) :
      name.all Entity.isInner = true → (∀ offset, Entity.reference offset name = .ok c) →
      Stands c ('&' :: name ++ [';'])

/-- However a character is escaped in a text, it is decoded. -/
theorem stands_escapeTextChar (c : Char) : Stands c (escapeTextChar c) := by
  rw [escapeTextChar]
  split
  · rename_i h; subst h
    exact .reference "amp".toList (by decide) fun _ => rfl
  · rename_i hamp
    split
    · rename_i h; subst h
      exact .reference "lt".toList (by decide) fun _ => rfl
    · split
      · rename_i h; subst h
        exact .reference "gt".toList (by decide) fun _ => rfl
      · exact .plain hamp

/-- However a character is escaped in a value, it is decoded. -/
theorem stands_escapeValueChar (c : Char) : Stands c (escapeValueChar c) := by
  rw [escapeValueChar]
  split
  · rename_i h; subst h
    exact .reference "quot".toList (by decide) fun _ => rfl
  · exact stands_escapeTextChar c

/-- A character that stands at the beginning of a text is the first to be decoded. -/
theorem Stands.decodeFrom {c : Char} {w : List Char} (h : Stands c w) (size offset : Nat)
    (rest : List Char) : ∃ next, Entity.decodeFrom size offset (w ++ rest) =
      (Entity.decodeFrom size next rest).map (c :: ·) := by
  cases h with
  | plain hc =>
      refine ⟨offset + c.utf8Size, ?_⟩
      rw [List.singleton_append, Entity.decodeFrom, if_neg hc]
      cases Entity.decodeFrom size (offset + c.utf8Size) rest <;> rfl
  | reference name hname hc =>
      have htail : '&' :: name ++ [';'] ++ rest = '&' :: (name ++ ';' :: rest) := by simp
      have hdrop : (name ++ ';' :: rest).dropWhile Entity.isInner = ';' :: rest := by
        rw [List.dropWhile_append_of_pos (List.all_eq_true.mp hname)]; rfl
      have htake : (name ++ ';' :: rest).takeWhile Entity.isInner = name := by
        rw [List.takeWhile_append_of_pos (List.all_eq_true.mp hname),
          List.takeWhile_cons_of_neg (by decide), List.append_nil]
      -- the name of the reference runs up to its semicolon
      refine ⟨offset + 1 + byteLength name + 1, ?_⟩
      rw [htail, Entity.decodeFrom, if_pos rfl]
      split
      · rename_i rest' hrest
        rw [hdrop] at hrest; cases hrest
        simp only [htake, hc]
        cases Entity.decodeFrom size (offset + 1 + byteLength name + 1) rest <;> rfl
      · rename_i hno
        exact absurd hdrop (hno rest)

/-- Characters that are each written so as to be decoded are decoded one after the other. -/
theorem decodeFrom_flatMap {escape : Char → List Char} (h : ∀ c, Stands c (escape c))
    (size offset : Nat) (cs : List Char) :
    Entity.decodeFrom size offset (cs.flatMap escape) = .ok cs := by
  induction cs generalizing offset with
  | nil => simp [Entity.decodeFrom]
  | cons c cs ih =>
      obtain ⟨next, hnext⟩ := (h c).decodeFrom size offset (cs.flatMap escape)
      rw [List.flatMap_cons, hnext, ih]
      rfl

/-- **An escaped text is decoded to the text.** -/
theorem decode_escapeText (cs : List Char) : Entity.decode (escapeText cs) = .ok cs :=
  decodeFrom_flatMap stands_escapeTextChar _ _ cs

/-- **An escaped value is decoded to the value.** -/
theorem decode_escapeValue (cs : List Char) : Entity.decode (escapeValue cs) = .ok cs :=
  decodeFrom_flatMap stands_escapeValueChar _ _ cs

theorem escapeText_eq_nil_iff {cs : List Char} : escapeText cs = [] ↔ cs = [] := by
  refine ⟨fun h => ?_, fun h => by rw [h]; rfl⟩
  have hdecode := decode_escapeText cs
  rw [h, Entity.decode, Entity.decodeFrom] at hdecode
  cases hdecode; rfl

/-! ### The end of a tag -/

/-- The search for the end of a tag passes over the text, which leaves no quote open. -/
def Passes (cs : List Char) : Prop :=
  ∀ rest, Piece.cutTag none (cs ++ rest) =
    (Piece.cutTag none rest).map fun (content, after) => (cs ++ content, after)

theorem passes_nil : Passes [] := fun rest => by simp

/-- A text that is passed over may follow another. -/
theorem Passes.append {cs ds : List Char} (hc : Passes cs) (hd : Passes ds) :
    Passes (cs ++ ds) := by
  intro rest
  rw [List.append_assoc, hc, hd, Option.map_map]
  simp only [Function.comp_def, List.append_assoc]

/-- Whether a character neither ends a tag nor opens a quote. -/
def isPlain (c : Char) : Bool := c != '>' && c != '"' && c != '\''

theorem passes_of_plain {cs : List Char} (h : cs.all isPlain = true) : Passes cs := by
  induction cs with
  | nil => exact passes_nil
  | cons c cs ih =>
      simp only [List.all_cons, isPlain, Bool.and_eq_true, bne_iff_ne] at h
      obtain ⟨⟨⟨hend, hdouble⟩, hsingle⟩, hcs⟩ := h
      intro rest
      rw [List.cons_append, Piece.cutTag]
      simp only [hend, hdouble, hsingle, or_self, if_false]
      rw [ih hcs rest, Option.map_map]
      rfl

/-- Within quotes everything is passed over but the quote itself. -/
theorem cutTag_quoted {cs : List Char} (h : '"' ∉ cs) (rest : List Char) :
    Piece.cutTag (some '"') (cs ++ '"' :: rest) =
      (Piece.cutTag none rest).map fun (content, after) => (cs ++ '"' :: content, after) := by
  induction cs with
  | nil => rfl
  | cons c cs ih =>
      simp only [List.mem_cons, not_or] at h
      rw [List.cons_append, Piece.cutTag]
      simp only [Ne.symm h.1, if_false]
      rw [ih h.2, Option.map_map]
      rfl

theorem passes_quoted {cs : List Char} (h : '"' ∉ cs) : Passes ('"' :: cs ++ ['"']) := by
  intro rest
  have hassoc : '"' :: cs ++ ['"'] ++ rest = '"' :: (cs ++ '"' :: rest) := by simp
  rw [hassoc, Piece.cutTag]
  simp only [true_or, if_true]
  rw [cutTag_quoted h, Option.map_map]
  simp [Function.comp_def]

/-- A tag whose content is passed over ends at the first `>` behind it. -/
theorem Passes.cutTag {cs : List Char} (h : Passes cs) (rest : List Char) :
    Piece.cutTag none (cs ++ '>' :: rest) = some (cs, rest) := by
  rw [h]; simp [Piece.cutTag]

theorem passes_name {s : String} (h : isName s = true) : Passes s.toList := by
  refine passes_of_plain (List.all_eq_true.mpr fun c hc => ?_)
  have hname := isNameChar_of_mem h hc
  simp only [isPlain, Bool.and_eq_true, bne_iff_ne]
  exact ⟨⟨ne_of_isNameChar hname (by decide), ne_of_isNameChar hname (by decide)⟩,
    ne_of_isNameChar hname (by decide)⟩

/-- An attribute with a name for its key is passed over, whatever its value is. -/
theorem passes_writeAttribute {pair : String × String} (h : isName pair.1 = true) :
    Passes (writeAttribute pair) := by
  have hblank : Passes [' '] := passes_of_plain (by decide)
  have hequals : Passes ['='] := passes_of_plain (by decide)
  have hvalue := passes_quoted (quote_not_mem_escapeValue pair.2.toList)
  have hall := ((hblank.append (passes_name h)).append hequals).append hvalue
  have heq : writeAttribute pair =
      [' '] ++ pair.1.toList ++ ['='] ++ ('"' :: escapeValue pair.2.toList ++ ['"']) := by
    simp [writeAttribute]
  rwa [heq]

/-- The content of the opening tag of an element as it is written. -/
def tagContent (tag : String) (attributes : Attributes) : List Char :=
  tag.toList ++ attributes.write

theorem passes_write {pairs : List (String × String)}
    (h : ∀ pair ∈ pairs, isName pair.1 = true) : Passes (pairs.flatMap writeAttribute) := by
  induction pairs with
  | nil => exact passes_nil
  | cons pair pairs ih =>
      rw [List.flatMap_cons]
      exact (passes_writeAttribute (h pair List.mem_cons_self)).append
        (ih fun p hp => h p (List.mem_cons_of_mem _ hp))

/-- **A written tag ends at its own end.** -/
theorem Proper.passes {tag : String} {attributes : Attributes} (h : Proper tag attributes) :
    Passes (tagContent tag attributes) :=
  (passes_name h.tag).append
    (passes_write fun pair hp => h.key pair.1 (List.mem_map_of_mem hp))

/-! ### The content of a tag -/

theorem isWordChar_of_isNameChar {c : Char} (h : isNameChar c = true) :
    Tag.isWordChar c = true := by
  rw [Tag.isWordChar, isWhitespace_of_isNameChar h]; rfl

theorem isKeyChar_of_isNameChar {c : Char} (h : isNameChar c = true) : Tag.isKeyChar c = true := by
  rw [Tag.isKeyChar, isWordChar_of_isNameChar h, Bool.true_and, bne_iff_ne]
  exact ne_of_isNameChar h (by decide)

theorem isWordChar_of_mem {s : String} (h : isName s = true) :
    ∀ c ∈ s.toList, Tag.isWordChar c = true := fun _ hc =>
  isWordChar_of_isNameChar (isNameChar_of_mem h hc)

/-- What is written for attributes is empty or begins with a blank. -/
theorem write_eq_nil_or (attributes : Attributes) :
    attributes.write = [] ∨ ∃ rest, attributes.write = ' ' :: rest := by
  obtain ⟨pairs⟩ := attributes
  cases pairs with
  | nil => exact .inl rfl
  | cons pair pairs => exact .inr ⟨_, rfl⟩

/-- The name of a written tag is the tag, and the attributes are no part of it. -/
theorem name_tagContent {tag : String} (h : isName tag = true) (attributes : Attributes) :
    Tag.name (tagContent tag attributes) = tag := by
  have hnone : attributes.write.takeWhile Tag.isWordChar = [] := by
    rcases write_eq_nil_or attributes with hw | ⟨rest, hw⟩ <;> rw [hw] <;> rfl
  rw [Tag.name, tagContent, List.takeWhile_append_of_pos (isWordChar_of_mem h), hnone,
    List.append_nil, String.ofList_toList]

/-- What follows the name in a written tag are its attributes. -/
theorem attributePart_tagContent {tag : String} (h : isName tag = true) (attributes : Attributes) :
    Tag.attributePart (tagContent tag attributes) = attributes.write := by
  have hall : attributes.write.dropWhile Tag.isWordChar = attributes.write := by
    rcases write_eq_nil_or attributes with hw | ⟨rest, hw⟩ <;> rw [hw] <;> rfl
  rw [Tag.attributePart, tagContent, List.dropWhile_append_of_pos (isWordChar_of_mem h), hall]

/-- Attributes are read by reading one, and then the others. -/
theorem readAttributes_of_bind {size : Nat} {acc acc' : Attributes} {cs rest raw rest' : List Char}
    {c : Char} (hs : Tag.skipSpace cs = c :: rest)
    (hb : Tag.readBinding size (Tag.skipSpace (rest.dropWhile Tag.isKeyChar)) = .ok (raw, rest'))
    (ha : Tag.bind acc (String.ofList (c :: rest.takeWhile Tag.isKeyChar)) raw = .ok acc') :
    Tag.readAttributes size acc cs = Tag.readAttributes size acc' rest' := by
  rw [Tag.readAttributes]
  split
  · rename_i hnil; rw [hs] at hnil; cases hnil
  · rename_i c₁ rest₁ hcons
    rw [hs] at hcons; cases hcons
    split
    · rename_i fault hfault; rw [hb] at hfault; cases hfault
    · rename_i raw₁ rest₂ hok
      rw [hb] at hok; cases hok
      rw [ha]

/-- A value between quotes is read up to the quote that closes it. -/
theorem readBinding_quoted {value : List Char} (h : '"' ∉ value) (size : Nat) (rest : List Char) :
    Tag.readBinding size ('=' :: '"' :: (value ++ '"' :: rest)) = .ok (value, rest) := by
  have hquote : ∀ c ∈ value, (c != '"') = true := fun c hc => bne_iff_ne.mpr fun e => h (e ▸ hc)
  rw [Tag.readBinding, if_pos rfl, Tag.skipSpace, List.dropWhile_cons_of_neg (by decide)]
  simp only [Tag.readValue, true_or, if_true]
  rw [List.dropWhile_append_of_pos hquote, List.takeWhile_append_of_pos hquote]
  simp

/-- One written attribute is read as its key and value. -/
theorem readAttributes_writeAttribute {size : Nat} {acc : Attributes} {pair : String × String}
    (hname : isName pair.1 = true) (hnew : pair.1 ∉ acc.keys) (rest : List Char) :
    Tag.readAttributes size acc (writeAttribute pair ++ rest) =
      Tag.readAttributes size ⟨acc.toList ++ [pair]⟩ rest := by
  obtain ⟨key, value⟩ := pair
  obtain ⟨c, cs, hkey, hc, hcs⟩ := exists_cons_of_isName hname
  have hkey : key.toList = c :: cs := hkey
  have hstart : c.isWhitespace = false :=
    isWhitespace_of_isNameChar (isNameChar_of_isNameStart hc)
  have hinner : ∀ d ∈ cs, Tag.isKeyChar d = true := fun d hd => isKeyChar_of_isNameChar (hcs d hd)
  let binding := '=' :: '"' :: (escapeValue value.toList ++ '"' :: rest)
  -- the blank before the key is skipped, the key ends at the sign, and the value is quoted
  have hspace : Tag.skipSpace (writeAttribute (key, value) ++ rest) = c :: (cs ++ binding) := by
    have htext : writeAttribute (key, value) ++ rest = ' ' :: c :: (cs ++ binding) := by
      simp [writeAttribute, hkey, binding]
    rw [htext, Tag.skipSpace, List.dropWhile_cons_of_pos (by decide),
      List.dropWhile_cons_of_neg (by simp [hstart])]
  have hbinding : Tag.readBinding size (Tag.skipSpace ((cs ++ binding).dropWhile Tag.isKeyChar)) =
      .ok (escapeValue value.toList, rest) := by
    rw [List.dropWhile_append_of_pos hinner, List.dropWhile_cons_of_neg (by decide), Tag.skipSpace,
      List.dropWhile_cons_of_neg (by decide),
      readBinding_quoted (quote_not_mem_escapeValue value.toList)]
  refine readAttributes_of_bind hspace hbinding ?_
  rw [List.takeWhile_append_of_pos hinner, List.takeWhile_cons_of_neg (by decide), List.append_nil,
    ← hkey, String.ofList_toList, Tag.bind, Attributes.contains_eq_false_iff.mpr hnew, decode_escapeValue]
  simp [Attributes.insert_of_notMem hnew]

/-- Attributes with distinct names are read as they were written, and in their order. -/
theorem readAttributes_write {size : Nat} {before pairs : List (String × String)}
    (hname : ∀ pair ∈ pairs, isName pair.1 = true)
    (hnodup : ((before ++ pairs).map Prod.fst).Nodup) :
    Tag.readAttributes size ⟨before⟩ (pairs.flatMap writeAttribute) = .ok ⟨before ++ pairs⟩ := by
  induction pairs generalizing before with
  | nil =>
      rw [Tag.readAttributes]
      split
      · rw [List.append_nil]
      · rename_i hcons; cases hcons
  | cons pair pairs ih =>
      have hsplit : before ++ pair :: pairs = before ++ [pair] ++ pairs := by simp
      have hnew : pair.1 ∉ before.map Prod.fst := by
        intro hmem
        rw [List.map_append, List.nodup_append] at hnodup
        exact hnodup.2.2 pair.1 hmem pair.1 (by simp) rfl
      rw [List.flatMap_cons, readAttributes_writeAttribute (hname pair List.mem_cons_self) hnew,
        ih (fun p hp => hname p (List.mem_cons_of_mem _ hp)) (hsplit ▸ hnodup), ← hsplit]

/-- **The attributes of a written tag are those that were written.** -/
theorem Proper.attributes_eq {tag : String} {attributes : Attributes}
    (h : Proper tag attributes) : Tag.attributes (tagContent tag attributes) = .ok attributes := by
  rw [Tag.attributes, attributePart_tagContent h.tag]
  exact readAttributes_write (fun pair hp => h.key pair.1 (List.mem_map_of_mem hp)) h.nodup

/-! ### Pieces -/

/-- What is written for attributes is empty or ends with a quote. -/
theorem write_eq_nil_or_concat (attributes : Attributes) :
    attributes.write = [] ∨ ∃ before, attributes.write = before ++ ['"'] := by
  obtain ⟨pairs⟩ := attributes
  rcases List.eq_nil_or_concat pairs with rfl | ⟨before, last, rfl⟩
  · exact .inl rfl
  · refine .inr ⟨before.flatMap writeAttribute ++
      (' ' :: last.1.toList ++ "=\"".toList ++ escapeValue last.2.toList), ?_⟩
    simp [Attributes.write, writeAttribute]

theorem ofTagContent_slash (content : List Char) :
    Piece.ofTagContent (content ++ ['/']) = .selfClosing content := by
  simp [Piece.ofTagContent]

/-- A written tag without a slash at its end is no tag of an element without content. -/
theorem ofTagContent_tagContent {tag : String} (h : isName tag = true) (attributes : Attributes) :
    Piece.ofTagContent (tagContent tag attributes) = .opening (tagContent tag attributes) := by
  rw [Piece.ofTagContent, if_neg]
  rw [tagContent]
  rcases write_eq_nil_or_concat attributes with hw | ⟨before, hw⟩ <;> rw [hw]
  · rw [List.append_nil]
    intro hlast
    exact ne_of_isNameChar (isNameChar_of_mem h (List.mem_of_getLast? hlast)) (by decide) rfl
  · simp [← List.append_assoc]

/-- Markup that begins with a name is a tag. -/
theorem readMarkup_append_tagContent {tag : String} (h : isName tag = true)
    (attributes : Attributes) (cs : List Char) :
    Piece.readMarkup (tagContent tag attributes ++ cs) =
      Piece.readTag Piece.ofTagContent (tagContent tag attributes ++ cs) := by
  obtain ⟨c, rest, htag, hc, -⟩ := exists_cons_of_isName h
  have hname := isNameChar_of_isNameStart hc
  rw [tagContent, htag, List.append_assoc, List.cons_append, Piece.readMarkup,
    if_neg (ne_of_isNameChar hname (by decide)), if_neg (ne_of_isNameChar hname (by decide)),
    if_neg (ne_of_isNameChar hname (by decide))]

namespace Proper

variable {tag : String} {attributes : Attributes} (h : Proper tag attributes)

include h

/-- A written opening tag is read as such. -/
theorem read_opening (rest : List Char) :
    Piece.read '<' (tagContent tag attributes ++ '>' :: rest) =
      .ok (.opening (tagContent tag attributes), rest) := by
  rw [Piece.read, if_pos rfl, readMarkup_append_tagContent h.tag, Piece.readTag, h.passes.cutTag]
  simp only [ofTagContent_tagContent h.tag]

/-- A written tag of an element without children is read as one that closes itself. -/
theorem read_selfClosing (rest : List Char) :
    Piece.read '<' (tagContent tag attributes ++ '/' :: '>' :: rest) =
      .ok (.selfClosing (tagContent tag attributes), rest) := by
  have hslash : Passes (tagContent tag attributes ++ ['/']) :=
    h.passes.append (passes_of_plain (by decide))
  have hcut := hslash.cutTag rest
  rw [List.append_assoc, List.singleton_append] at hcut
  rw [Piece.read, if_pos rfl, readMarkup_append_tagContent h.tag, Piece.readTag, hcut]
  simp only [ofTagContent_slash]

end Proper

/-- A written closing tag is read as such. -/
theorem read_closing {tag : String} (h : isName tag = true) (rest : List Char) :
    Piece.read '<' ('/' :: (tag.toList ++ '>' :: rest)) = .ok (.closing tag.toList, rest) := by
  rw [Piece.read, if_pos rfl, Piece.readMarkup, if_neg (by decide), if_neg (by decide), if_pos rfl,
    Piece.readTag, (passes_name h).cutTag]

/-- Text is read up to the next tag. -/
theorem read_text {c : Char} {cs : List Char} (h : '<' ∉ c :: cs) (rest : List Char) :
    Piece.read c (cs ++ '<' :: rest) = .ok (.text c cs, '<' :: rest) := by
  simp only [List.mem_cons, not_or] at h
  have hall : ∀ d ∈ cs, (d != '<') = true := fun d hd => bne_iff_ne.mpr fun e => h.2 (e ▸ hd)
  rw [Piece.read, if_neg (Ne.symm h.1), List.takeWhile_append_of_pos hall,
    List.dropWhile_append_of_pos hall]
  simp

end MarkupTemplates.Markup
