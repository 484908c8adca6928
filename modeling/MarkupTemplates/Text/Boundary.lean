import MarkupTemplates.Text.BinaryProperty
import MarkupTemplates.Text.Script

/-!
# Where texts divide

Texts divide into graphemes, words and sentences.  The rules for this put each character into one
class for each division, by its category, its properties and a few tables; the lists of this module
are the classes that patterns can name.
-/

namespace MarkupTemplates.Text

open GeneralCategory (rangesOf)

/-- The joiner of letters. -/
def joiner : Ranges := [(0x200D, 0x200D)]

/-- The joiner and its opposite. -/
def joiners : Ranges := [(0x200C, 0x200D)]

/-- The code points of a script, given its code. -/
def scriptRanges (code : String) : Ranges :=
  ((Script.all.find? fun s => s.code = code).map (·.ranges)).getD []

/-! ### Graphemes -/

/-- The characters that extend the grapheme before them. -/
def graphemeExtension : Ranges :=
  diffRanges (tidyRanges (graphemeExtend ++ readRanges "1F3FB-1F3FF")) joiner

/-- Marks that take space and stand for themselves. -/
def separateMarks : List String :=
  ["102B-102C 1038 1062-1064 1067-106D 1083 1087-108C 108F 109A-109C 1A61 1A63-1A64 AA7B AA7D",
   "1171E 11720-11721"]

/-- The characters that go with the grapheme before them and take space. -/
def spacingMark : Ranges :=
  unionRanges
    (diffRanges (rangesOf [.mc]) (tidyRanges (graphemeExtend ++ tableRanges separateMarks)))
    (readRanges "E33 EB3")

/-- Characters without meaning of their own where no character is assigned yet. -/
def reservedControls : List String :=
  ["2065 FFF0-FFF8 E0000 E0002-E001F E0080-E00FF E01F0-E0FFF"]

/-- The characters that no grapheme contains beside others. -/
def graphemeControl : Ranges :=
  diffRanges
    (tidyRanges (rangesOf [.zl, .zp, .cc, .cf] ++ tableRanges reservedControls))
    (tidyRanges (readRanges "A D 600-605 6DD 70F 890-891 8E2 110BD 110CD" ++ joiners ++
      graphemeExtend))

/-- The first syllables of the blocks of syllables that differ in their last letter. -/
def openSyllables : Ranges := (List.range 399).map fun i => (0xAC00 + 28 * i, 0xAC00 + 28 * i)

/-- The classes of graphemes. -/
def graphemeClasses : List NamedClass :=
  [⟨["Control", "CN"], fun _ => graphemeControl⟩,
   ⟨["CR"], fun _ => readRanges "D"⟩,
   ⟨["Extend", "EX"], fun _ => graphemeExtension⟩,
   ⟨["L"], fun _ => readRanges "1100-115F A960-A97C"⟩,
   ⟨["LF"], fun _ => readRanges "A"⟩,
   ⟨["LV"], fun _ => openSyllables⟩,
   ⟨["LVT"], fun _ => diffRanges (readRanges "AC00-D7A3") openSyllables⟩,
   ⟨["Prepend", "PP"], fun _ =>
      tableRanges ["600-605 6DD 70F 890-891 8E2 D4E 110BD 110CD 111C2-111C3 113D1 1193F 11941",
        "11A3A 11A84-11A89 11D46 11F02"]⟩,
   ⟨["Regional_Indicator", "RI"], fun _ => readRanges "1F1E6-1F1FF"⟩,
   ⟨["SpacingMark", "SM"], fun _ => spacingMark⟩,
   ⟨["T"], fun _ => readRanges "11A8-11FF D7CB-D7FB"⟩,
   ⟨["V"], fun _ => readRanges "1160-11A7 D7B0-D7C6 16D63 16D67-16D6A"⟩,
   ⟨["ZWJ"], fun _ => joiner⟩]

/-! ### Words -/

/-- The characters that extend the character before them. -/
def wordExtension : Ranges :=
  diffRanges (tidyRanges (graphemeExtend ++ rangesOf [.mc] ++ readRanges "1F3FB-1F3FF")) joiner

/-- Letters of scripts that part words by no space. -/
def spacelessLetters : List String :=
  ["E01-E30 E32-E33 E40-E46 E81-E82 E84 E86-E8A E8C-EA3 EA5 EA7-EB0 EB2-EB3 EBD EC0-EC4 EC6",
   "EDC-EDF 1000-102A 103F 1050-1055 105A-105D 1061 1065-1066 106E-1070 1075-1081 108E 1780-17B3",
   "17D7 17DC 1950-196D 1970-1974 1980-19AB 19B0-19C9 1A20-1A54 1AA7 A9E0-A9E4 A9E6-A9EF",
   "A9FA-A9FE AA60-AA76 AA7A AA7E-AAAF AAB1 AAB5-AAB6 AAB9-AABD AAC0 AAC2 AADB-AADD 11700-1171A",
   "11740-11746"]

/-- Signs that are taken for letters. -/
def letterSigns : List String :=
  ["2C2-2C5 2D2-2D7 2DE-2DF 2E5-2EB 2ED 2EF-2FF 55A-55C 55E 58A 5F3 A708-A716 A720-A721",
   "A789-A78A AB5B"]

/-- Katakana and what goes with it. -/
def katakana : List String :=
  ["3031-3035 309B-309C 30A0-30FA 30FC-30FF 31F0-31FF 32D0-32FE 3300-3357 FF66-FF9D 1AFF0-1AFF3",
   "1AFF5-1AFFB 1AFFD-1AFFE 1B000 1B120-1B122 1B155 1B164-1B167"]

/-- Hebrew letters. -/
def hebrewLetters : List String :=
  ["5D0-5EA 5EF-5F2 FB1D FB1F-FB28 FB2A-FB36 FB38-FB3C FB3E FB40-FB41 FB43-FB44 FB46-FB4F"]

/-- The letters of words. -/
def wordLetter : Ranges :=
  unionRanges
    (diffRanges alphabetic
      (tidyRanges (tableRanges (ideographic ++ katakana ++ hebrewLetters ++ spacelessLetters) ++
        scriptRanges "Hira" ++ wordExtension)))
    (tableRanges letterSigns)

/-- The digits of numbers and the sign between them. -/
def numeric : Ranges := unionRanges (rangesOf [.nd]) (readRanges "66B-66C")

/-- The classes of words. -/
def wordClasses : List NamedClass :=
  [⟨["ALetter", "LE"], fun _ => wordLetter⟩,
   ⟨["CR"], fun _ => readRanges "D"⟩,
   ⟨["Double_Quote", "DQ"], fun _ => readRanges "22"⟩,
   ⟨["Extend"], fun _ => wordExtension⟩,
   ⟨["ExtendNumLet", "EX"], fun _ =>
      readRanges "5F 202F 203F-2040 2054 FE33-FE34 FE4D-FE4F FF3F"⟩,
   ⟨["Format", "FO"], fun _ =>
      diffRanges (rangesOf [.cf]) (tidyRanges (readRanges "200B E0020-E007F" ++ joiners))⟩,
   ⟨["Hebrew_Letter", "HL"], fun _ => tableRanges hebrewLetters⟩,
   ⟨["Katakana", "KA"], fun _ => tableRanges katakana⟩,
   ⟨["LF"], fun _ => readRanges "A"⟩,
   ⟨["MidLetter", "ML"], fun _ => readRanges "3A B7 387 55F 5F4 2027 FE13 FE55 FF1A"⟩,
   ⟨["MidNum", "MN"], fun _ =>
      readRanges "2C 3B 37E 589 60C-60D 66C 7F8 2044 FE10 FE14 FE50 FE54 FF0C FF1B"⟩,
   ⟨["MidNumLet", "MB"], fun _ => readRanges "2E 2018-2019 2024 FE52 FF07 FF0E"⟩,
   ⟨["Newline", "NL"], fun _ => readRanges "B-C 85 2028-2029"⟩,
   ⟨["Numeric", "NU"], fun _ => diffRanges numeric (readRanges "66C")⟩,
   ⟨["Regional_Indicator", "RI"], fun _ => readRanges "1F1E6-1F1FF"⟩,
   ⟨["Single_Quote", "SQ"], fun _ => readRanges "27"⟩,
   ⟨["WSegSpace"], fun _ => readRanges "20 1680 2000-2006 2008-200A 205F 3000"⟩,
   ⟨["ZWJ"], fun _ => joiner⟩]

/-! ### Sentences -/

/-- Georgian letters, which sentences do not tell apart by case. -/
def georgianLetters : Ranges := readRanges "10D0-10FA 10FD-10FF 1C90-1CBA 1CBD-1CBF"

/-- The small letters of sentences. -/
def sentenceLower : Ranges :=
  diffRanges lowercase (tidyRanges (graphemeExtend ++ georgianLetters))

/-- The capital letters of sentences. -/
def sentenceUpper : Ranges :=
  diffRanges (unionRanges uppercase (rangesOf [.lt])) georgianLetters

/-- The characters that extend the character before them. -/
def sentenceExtension : Ranges :=
  unionRanges (tidyRanges (graphemeExtend ++ rangesOf [.mc])) joiner

/-- The full stops that need not end a sentence. -/
def fullStops : Ranges := readRanges "2E 2024 FE52 FF0E"

/-- The classes of sentences. -/
def sentenceClasses : List NamedClass :=
  [⟨["ATerm", "AT"], fun _ => fullStops⟩,
   ⟨["Close", "CL"], fun _ =>
      tidyRanges (rangesOf [.ps, .pe, .pi, .pf] ++
        readRanges "22 27 275B-2760 2E00-2E01 2E06-2E08 2E0B 1F676-1F678")⟩,
   ⟨["CR"], fun _ => readRanges "D"⟩,
   ⟨["Extend", "EX"], fun _ => sentenceExtension⟩,
   ⟨["Format", "FO"], fun _ =>
      diffRanges (rangesOf [.cf]) (tidyRanges (readRanges "E0020-E007F" ++ joiners))⟩,
   ⟨["LF"], fun _ => readRanges "A"⟩,
   ⟨["Lower", "LO"], fun _ => sentenceLower⟩,
   ⟨["Numeric", "NU"], fun _ => numeric⟩,
   ⟨["OLetter", "LE"], fun _ =>
      unionRanges
        (diffRanges alphabetic (tidyRanges (sentenceLower ++ sentenceUpper ++ sentenceExtension)))
        (readRanges "5F3")⟩,
   ⟨["SContinue", "SC"], fun _ =>
      tableRanges ["2C-2D 3A-3B 37E 55D 60C-60D 7F8 1802 1808 2013-2014 3001 FE10-FE11 FE13-FE14",
        "FE31-FE32 FE50-FE51 FE54-FE55 FE58 FE63 FF0C-FF0D FF1A-FF1B FF64"]⟩,
   ⟨["Sep", "SE"], fun _ => readRanges "85 2028-2029"⟩,
   ⟨["Sp", "SP"], fun _ => readRanges "9 B-C 20 A0 1680 2000-200A 202F 205F 3000"⟩,
   ⟨["STerm", "ST"], fun _ =>
      diffRanges (tableRanges sentenceTerminal) fullStops⟩,
   ⟨["Upper", "UP"], fun _ => sentenceUpper⟩]

end MarkupTemplates.Text
