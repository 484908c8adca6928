import MarkupTemplates.Text.CaseFolding

/-!
# Sets of characters

A `CharSet` is a set of characters by its code points, in tidy ranges.  `anyCase` and `anyAsciiCase`
close a set under a change of case.
-/

namespace MarkupTemplates.Pattern

open Text (Ranges)

/-- A set of characters. -/
structure CharSet where
  /-- The code points of its characters. -/
  ranges : Ranges
deriving DecidableEq, Repr

namespace CharSet

/-- Whether a character is in the set. -/
def contains (c : Char) (s : CharSet) : Bool := Text.inRanges s.ranges c.toNat

/-- No character. -/
def none : CharSet := ⟨[]⟩

/-- All characters. -/
def all : CharSet := ⟨[(0, Text.lastCodePoint)]⟩

/-- The characters with code points from `first` to `last`. -/
def range (first last : Nat) : CharSet := ⟨[(first, last)]⟩

/-- The set of one character. -/
def single (c : Char) : CharSet := range c.toNat c.toNat

/-- All characters that are not in the set. -/
def compl (s : CharSet) : CharSet := ⟨Text.complementRanges s.ranges⟩

/-- The characters of both sets together. -/
def union (s t : CharSet) : CharSet := ⟨Text.unionRanges s.ranges t.ranges⟩

/-- The characters that two sets share. -/
def inter (s t : CharSet) : CharSet := ⟨Text.interRanges s.ranges t.ranges⟩

/-- The characters of the first set that are not in the second. -/
def diff (s t : CharSet) : CharSet := ⟨Text.diffRanges s.ranges t.ranges⟩

/-- The characters that are in one of the sets and not in both. -/
def symmDiff (s t : CharSet) : CharSet := union (diff s t) (diff t s)

/-- The set with all forms of its letters. -/
def anyCase (s : CharSet) : CharSet := ⟨Text.closeCases s.ranges⟩

/-- The set with both forms of its ASCII letters. -/
def anyAsciiCase (s : CharSet) : CharSet :=
  let letters := (List.range 26).filter fun i =>
    Text.inRanges s.ranges (65 + i) || Text.inRanges s.ranges (97 + i)
  ⟨Text.unionRanges s.ranges (letters.flatMap fun i => [(65 + i, 65 + i), (97 + i, 97 + i)])⟩

/-- The sets of ASCII characters that have a name. -/
def asciiSets : List (String × Ranges) :=
  let digits := [(48, 57)]
  let uppers := [(65, 90)]
  let lowers := [(97, 122)]
  [("alnum", digits ++ uppers ++ lowers), ("alpha", uppers ++ lowers), ("ascii", [(0, 127)]),
    ("blank", [(9, 9), (32, 32)]), ("cntrl", [(0, 31), (127, 127)]), ("digit", digits),
    ("graph", [(33, 126)]), ("lower", lowers), ("print", [(32, 126)]),
    ("punct", [(33, 47), (58, 64), (91, 96), (123, 126)]), ("space", [(9, 13), (32, 32)]),
    ("upper", uppers), ("word", digits ++ uppers ++ [(95, 95)] ++ lowers),
    ("xdigit", digits ++ [(65, 70), (97, 102)])]

/-- The set of ASCII characters of a name. -/
def named? (name : String) : Option CharSet := (asciiSets.lookup name).map CharSet.mk

end CharSet

end MarkupTemplates.Pattern
