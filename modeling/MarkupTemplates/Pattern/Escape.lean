import MarkupTemplates.Pattern.Basic
import MarkupTemplates.Text.Property

/-!
# Flags and escapes

The flags that a part of a pattern is read with say what its letters, classes and signs stand for.
With the flag `verbose`, blanks and remarks between the signs do not count; `Flags.skip` leaves them
out.  An escape is a backslash with what follows it: a character, a class of characters, or a
condition on the position.
-/

namespace MarkupTemplates.Pattern

/-! ### Flags -/

/-- The flags that a part of a pattern is read with. -/
structure Flags where
  /-- Letters stand for both cases. -/
  anyCase : Bool := false
  /-- `^` and `$` stand for the ends of lines. -/
  lines : Bool := false
  /-- `.` stands for any character. -/
  dotAll : Bool := false
  /-- Carriage returns end lines too. -/
  returns : Bool := false
  /-- Classes and words are of ASCII characters only. -/
  ascii : Bool := false
  /-- Blanks and remarks do not count. -/
  verbose : Bool := false
deriving DecidableEq, Repr

namespace Flags

/-- The flags with the one of a letter set to a value.  The letter `U` does not change what a
pattern matches. -/
def assign (value : Bool) (f : Flags) : Char → Option Flags
  | 'i' => some { f with anyCase := value }
  | 'm' => some { f with lines := value }
  | 's' => some { f with dotAll := value }
  | 'R' => some { f with returns := value }
  | 'u' => some { f with ascii := !value }
  | 'x' => some { f with verbose := value }
  | 'U' => some f
  | _ => none

/-- The flags after a list of letters.  No letter comes twice, and after a hyphen, of which there is
one at most, letters clear flags. -/
def change (f : Flags) (letters : List Char) : Option Flags :=
  let sets := letters.takeWhile (· != '-')
  let clears := letters.dropWhile (· != '-')
  if clears = ['-'] || letters.eraseDups != letters then none
  else do
    let f ← sets.foldlM (assign true) f
    (clears.drop 1).foldlM (assign false) f

/-! ### Blanks and remarks -/

/-- The text without the blanks and remarks in front, given whether it begins within a remark. -/
def skipRemarks : Bool → List Char → List Char
  | _, [] => []
  | true, c :: cs => skipRemarks (c != '\n') cs
  | false, c :: cs =>
    if Text.isBlank c then skipRemarks false cs
    else if c = '#' then skipRemarks true cs
    else c :: cs

/-- The text without what does not count in front. -/
def skip (f : Flags) (cs : List Char) : List Char := if f.verbose then skipRemarks false cs else cs

/-- The characters up to a mark that count, and the text after the mark.  As each round takes a
character, `n` can be the length of the text. -/
def upTo (f : Flags) (mark : Char) : Nat → List Char → Option (List Char × List Char)
  | 0, _ => none
  | n + 1, cs =>
    match f.skip cs with
    | [] => none
    | c :: rest =>
      if c = mark then some ([], rest)
      else (f.upTo mark n rest).map fun (taken, rest) => (c :: taken, rest)

/-- So many characters that count, and the text after them. -/
def take (f : Flags) : Nat → List Char → Option (List Char × List Char)
  | 0, cs => some ([], cs)
  | n + 1, cs =>
    match f.skip cs with
    | [] => none
    | c :: rest => (f.take n rest).map fun (taken, rest) => (c :: taken, rest)

/-! ### Sets -/

/-- A set as the flags want it: with the other forms of its letters, or without them. -/
def close (f : Flags) (s : CharSet) : CharSet :=
  if !f.anyCase then s else if f.ascii then s.anyAsciiCase else s.anyCase

/-- A set, or all characters that are not in it.  Of the ASCII characters alone, none can be all
that are not in a set. -/
def negate (f : Flags) (negated : Bool) (s : CharSet) : Option CharSet :=
  if !negated then some s else if f.ascii then none else some s.compl

/-- The set of a class that has a letter: digits, white space or the characters of words. -/
def classOf (f : Flags) (letter : Char) : Option CharSet :=
  if f.ascii then
    (List.lookup letter [('d', "digit"), ('s', "space"), ('w', "word")]).bind CharSet.named?
  else
    (List.lookup letter
      [('d', Text.digitRanges), ('s', Text.blankRanges), ('w', Text.wordRanges)]).map CharSet.mk

end Flags

/-! ### Escapes -/

/-- What an escape stands for. -/
inductive Escape where
  /-- A character. -/
  | literal (c : Char)
  /-- A class of characters. -/
  | set (s : CharSet)
  /-- A condition on the position. -/
  | anchor (a : Anchor)
deriving Repr

/-- An escape and what it leaves of the text. -/
abbrev EscapeRead := Option (Escape × List Char)

/-- The ASCII characters that stand for themselves after a backslash: those that are neither letters
nor digits nor angle brackets. -/
def isEscapable (c : Char) : Bool := c.toNat < 128 && !c.isAlphanum && c != '<' && c != '>'

/-- The characters that have an escape of one letter. -/
def letterEscapes : List (Char × Char) :=
  [('a', '\x07'), ('f', '\x0C'), ('t', '\t'), ('n', '\n'), ('r', '\r'), ('v', '\x0B')]

/-- The conditions that have an escape of one sign. -/
def anchorEscape (f : Flags) : Char → Option Anchor
  | 'A' => some .textStart
  | 'z' => some .textEnd
  | 'B' => some (.word .none f.ascii)
  | '<' => some (.word .start f.ascii)
  | '>' => some (.word .stop f.ascii)
  | _ => none

/-- The number of hexadecimal digits that a letter asks for. -/
def hexLetters : List (Char × Nat) := [('x', 2), ('u', 4), ('U', 8)]

/-- The character that hexadecimal digits give. -/
def hexChar? (digits : List Char) : Option Char :=
  if digits.isEmpty || !digits.all (fun c => (Text.hexDigit? c).isSome) then none
  else
    let n := Text.hexValue digits
    if n.isValidChar then some (Char.ofNat n) else none

/-- Reads hexadecimal digits in braces, or `count` of them.  Two digits that stand for a byte must
be an ASCII character if only those are meant. -/
def readHex (f : Flags) (count : Nat) (cs : List Char) : EscapeRead :=
  match f.skip cs with
  | '{' :: cs => do
    let (digits, rest) ← f.upTo '}' (cs.length + 1) cs
    return (.literal (← hexChar? digits), rest)
  | cs => do
    let (digits, rest) ← f.take count cs
    let c ← hexChar? digits
    if f.ascii && count = 2 && c.toNat ≥ 128 then none else some (.literal c, rest)

/-- The text before a mark and the text after it, if the mark is there. -/
def splitAtMark (mark : List Char) : List Char → Option (List Char × List Char)
  | [] => none
  | c :: cs =>
    if mark.isPrefixOf (c :: cs) then some ([], (c :: cs).drop mark.length)
    else (splitAtMark mark cs).map fun (before, after) => (c :: before, after)

/-- The class of a property in braces, which may have a value: `!=` means all other values. -/
def propertySet? (f : Flags) (negated : Bool) (text : List Char) : Option CharSet :=
  let valued (negated : Bool) (parts : List Char × List Char) : Option CharSet := do
    let rs ← Text.valued? (String.ofList parts.1) (String.ofList parts.2)
    f.negate negated (f.close ⟨rs⟩)
  match splitAtMark ['!', '='] text, splitAtMark [':'] text, splitAtMark ['='] text with
  | some parts, _, _ => valued (!negated) parts
  | none, some parts, _ => valued negated parts
  | none, none, some parts => valued negated parts
  | none, none, none => do f.negate negated (f.close ⟨← Text.named? (String.ofList text)⟩)

/-- Reads the name of a property, which is one letter or stands in braces. -/
def readProperty (f : Flags) (negated : Bool) (cs : List Char) : EscapeRead :=
  if f.ascii then none
  else
    match f.skip cs with
    | [] => none
    | '\x7b' :: cs => do
      let (text, rest) ← f.upTo '\x7d' (cs.length + 1) cs
      return (.set (← propertySet? f negated text), rest)
    | '\\' :: _ => none
    | c :: rest => do
      let s := f.close ⟨← Text.named? (String.singleton c)⟩
      return (.set (← f.negate negated s), rest)

/-- The edges of words that have a name. -/
def edgeNames : List (String × WordEdge) :=
  [("start", .start), ("end", .stop), ("start-half", .startHalf), ("end-half", .stopHalf)]

/-- Reads what may follow the letter of a word edge: the name of a special one in braces.  Braces
that do not begin with a letter or a hyphen are left for a repetition. -/
def readWordEdge (f : Flags) (cs : List Char) : EscapeRead :=
  let plain : EscapeRead := some (.anchor (.word .any f.ascii), cs)
  match cs with
  | '\x7b' :: rest =>
    match f.skip rest with
    | [] => none
    | c :: _ =>
      if c.isAlpha || c == '-' then do
        let (name, rest) ← f.upTo '\x7d' (rest.length + 1) rest
        let edge ← edgeNames.lookup (String.ofList name)
        return (.anchor (.word edge f.ascii), rest)
      else plain
  | _ => plain

/-- Reads an escape, given what stands after the backslash. -/
def readEscape (f : Flags) : List Char → EscapeRead
  | [] => none
  | c :: cs =>
    if let some count := hexLetters.lookup c then readHex f count cs
    else if c = 'p' ∨ c = 'P' then readProperty f (c = 'P') cs
    else if c = 'b' then readWordEdge f cs
    else if isEscapable c then some (.literal c, cs)
    else if let some d := letterEscapes.lookup c then some (.literal d, cs)
    else if let some a := anchorEscape f c then some (.anchor a, cs)
    else do
      let s ← f.classOf c.toLower
      return (.set (← f.negate c.isUpper s), cs)

end MarkupTemplates.Pattern
