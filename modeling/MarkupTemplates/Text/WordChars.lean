import MarkupTemplates.Text.BinaryProperty

/-!
# Letters and digits

A character is part of a word if it is alphabetic, a mark, a decimal digit, a connector such as `_`,
or one of the two characters that join or part letters.  `isDigit` are the decimal digits of all
scripts.
-/

namespace MarkupTemplates.Text

open GeneralCategory (rangesOf marks numbers)

/-- The code points of decimal digits. -/
def digitRanges : Ranges := rangesOf [.nd]

/-- The code points of the characters of words. -/
def wordRanges : Ranges :=
  tidyRanges (alphabetic ++ rangesOf (.nd :: .pc :: marks) ++ [(0x200C, 0x200D)])

/-- Whether a character is a decimal digit of some script. -/
def isDigit (c : Char) : Bool := inRanges digitRanges c.toNat

/-- Whether a character is part of a word. -/
def isWord (c : Char) : Bool := inRanges wordRanges c.toNat

/-- Whether a character is alphabetic. -/
def isAlphabetic (c : Char) : Bool := inRanges alphabetic c.toNat

/-- Whether a character is alphabetic or any kind of number. -/
def isAlphanumeric (c : Char) : Bool := isAlphabetic c || inRanges (rangesOf numbers) c.toNat

end MarkupTemplates.Text
