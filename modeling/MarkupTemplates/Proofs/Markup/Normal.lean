import MarkupTemplates.Markup.Node
import MarkupTemplates.Path.Token

/-!
# Markup in normal form

A list of nodes is in *normal form* (`Normal`) if nothing about it is lost when it is written and
read again: its tags and keys are names, its texts are neither empty nor next to each other, and
elements without content have none.  If texts are trimmed when they are read, they must be trimmed
already.
-/

namespace MarkupTemplates.Markup

open MarkupTemplates.Path (isNameStart isNameChar)

/-! ### Names -/

/-- Whether a text is a name: a letter or underscore and then characters of names. -/
def isName (s : String) : Bool :=
  match s.toList with
  | [] => false
  | c :: cs => isNameStart c && cs.all isNameChar

theorem isNameChar_of_isNameStart {c : Char} (h : isNameStart c = true) : isNameChar c = true := by
  simp only [isNameStart, isNameChar, Char.isAlphanum, Bool.or_eq_true] at h ⊢
  rcases h with h | h <;> simp [h]

/-- A name begins with a character that may begin one, and goes on with characters of names. -/
theorem exists_cons_of_isName {s : String} (h : isName s = true) :
    ∃ c cs, s.toList = c :: cs ∧ isNameStart c = true ∧ ∀ d ∈ cs, isNameChar d = true := by
  rw [isName] at h
  split at h
  · cases h
  · rename_i c cs hs
    simp only [Bool.and_eq_true, List.all_eq_true] at h
    exact ⟨c, cs, hs, h⟩

theorem isNameChar_of_mem {s : String} (h : isName s = true) {c : Char} (hc : c ∈ s.toList) :
    isNameChar c = true := by
  obtain ⟨d, ds, hs, hd, hds⟩ := exists_cons_of_isName h
  rw [hs] at hc
  rcases List.mem_cons.mp hc with rfl | hc
  · exact isNameChar_of_isNameStart hd
  · exact hds c hc

/-- The characters of names are none of the others. -/
theorem ne_of_isNameChar {c d : Char} (hc : isNameChar c = true) (hd : isNameChar d = false) :
    c ≠ d := by
  rintro rfl; rw [hc] at hd; cases hd

/-- There is no blank in a name. -/
theorem isWhitespace_of_isNameChar {c : Char} (h : isNameChar c = true) :
    c.isWhitespace = false := by
  simp only [Char.isWhitespace, Bool.or_eq_false_iff, decide_eq_false_iff_not]
  refine ⟨⟨⟨?_, ?_⟩, ?_⟩, ?_⟩ <;> exact ne_of_isNameChar h (by decide)

theorem isAlpha_of_isLower_toLower {c : Char} (h : c.toLower.isLower = true) :
    c.isAlpha = true := by
  change (c.isUpper || c.isLower) = true
  rw [Bool.or_eq_true]
  by_cases hupper : c.val ≥ 'A'.val ∧ c.val ≤ 'Z'.val
  · exact .inl (decide_eq_true hupper)
  · have hsame : c.toLower = c := dif_neg hupper
    exact .inr (hsame ▸ h)

/-- The tags of elements without content are names. -/
theorem isName_of_isVoid {tag : String} (h : isVoid tag = true) : isName tag = true := by
  have hwords : ∀ word ∈ voidTags, word.toList ≠ [] ∧ word.toList.all Char.isLower = true := by
    decide
  obtain ⟨hne, hlower⟩ := hwords _ (List.contains_iff_mem.mp h)
  rw [String.toList_map] at hne hlower
  have halpha : ∀ c ∈ tag.toList, isNameStart c = true := by
    intro c hc
    have := isAlpha_of_isLower_toLower
      (List.all_eq_true.mp hlower c.toLower (List.mem_map_of_mem hc))
    rw [isNameStart, this]
    rfl
  rw [isName]
  split
  · rename_i hnil; rw [hnil] at hne; exact absurd rfl hne
  · rename_i c cs hcs
    rw [hcs] at halpha
    obtain ⟨hc, hall⟩ := List.forall_mem_cons.mp halpha
    rw [Bool.and_eq_true, List.all_eq_true]
    exact ⟨hc, fun d hd => isNameChar_of_isNameStart (hall d hd)⟩

/-! ### Normal form -/

/-- The tag and the keys of an element are names, and no key comes twice. -/
structure Proper (tag : String) (attributes : Attributes) : Prop where
  /-- The tag is a name. -/
  tag : isName tag = true
  /-- The keys are names. -/
  key : ∀ key ∈ attributes.keys, isName key = true
  /-- The keys are distinct. -/
  nodup : attributes.keys.Nodup

/-- Nodes that writing and reading leaves as they are. -/
inductive Normal (minify : Bool) : List Node → Prop where
  | nil : Normal minify []
  /-- No text follows a text. -/
  | text {content : String} {rest : List Node} :
      content ≠ "" → (minify = true → Text.trim content = content) →
      (∀ other, rest.head? ≠ some (.text other)) → Normal minify rest →
      Normal minify (.text content :: rest)
  /-- An element without content has no children. -/
  | element {tag : String} {attributes : Attributes} {children rest : List Node} :
      Proper tag attributes → (isVoid tag = true → children = []) → Normal minify children →
      Normal minify rest → Normal minify (.element tag attributes children :: rest)

end MarkupTemplates.Markup
