import MarkupTemplates.Pattern.CharSet
import MarkupTemplates.Text.WordChars

/-!
# Patterns

A `Pattern` is a regular expression.  `Pattern.after` says where a match can end, given where it can
begin; positions are counted in characters.  A pattern `occursIn` a text if a match can begin
anywhere in it.  `simplified` takes repetitions out of repetitions where that makes no difference,
so that `after` does not go through the same positions over and over.
-/

namespace MarkupTemplates

namespace Pattern

/-- A condition on the words before and after a position. -/
inductive WordEdge where
  /-- A word begins or ends. -/
  | any
  /-- No word begins or ends. -/
  | none
  /-- A word begins. -/
  | start
  /-- A word ends. -/
  | stop
  /-- No word stands before. -/
  | startHalf
  /-- No word stands after. -/
  | stopHalf
deriving DecidableEq, Repr

/-- Whether the condition is met, given whether there is a word before and after. -/
def WordEdge.holds (before after : Bool) : WordEdge → Bool
  | .any => before != after
  | .none => before == after
  | .start => !before && after
  | .stop => before && !after
  | .startHalf => !before
  | .stopHalf => !after

/-- A condition on a position in a text. -/
inductive Anchor where
  /-- The position is the beginning of the text. -/
  | textStart
  /-- The position is the end of the text. -/
  | textEnd
  /-- The position is the beginning of a line; `returns` says that carriage returns end lines
  too. -/
  | lineStart (returns : Bool)
  /-- The position is the end of a line; `returns` says that carriage returns end lines too. -/
  | lineEnd (returns : Bool)
  /-- Words begin or end at the position; `ascii` says that words are of ASCII characters only. -/
  | word (edge : WordEdge) (ascii : Bool)
deriving DecidableEq, Repr

/-- Whether the character at a position is there and passes a test. -/
def isAt (text : Array Char) (test : Char → Bool) (i : Nat) : Bool := (text[i]?).any test

/-- Whether the character before a position is there and passes a test. -/
def isBefore (text : Array Char) (test : Char → Bool) (i : Nat) : Bool :=
  i != 0 && isAt text test (i - 1)

/-- Whether an ASCII character is part of a word. -/
def isAsciiWord (c : Char) : Bool := c.isAlphanum || c == '_'

/-- Whether a position in a text meets the condition.  A line feed after a carriage return does not
end another line. -/
def Anchor.holds (text : Array Char) (i : Nat) : Anchor → Bool
  | .textStart => i == 0
  | .textEnd => i == text.size
  | .lineStart returns =>
    i == 0 || isBefore text (· == '\n') i ||
      (returns && isBefore text (· == '\r') i && !isAt text (· == '\n') i)
  | .lineEnd returns =>
    i == text.size || (returns && isAt text (· == '\r') i) ||
      (isAt text (· == '\n') i && !(returns && isBefore text (· == '\r') i))
  | .word edge ascii =>
    let isPart := if ascii then isAsciiWord else Text.isWord
    edge.holds (isBefore text isPart i) (isAt text isPart i)

end Pattern

/-- A regular expression. -/
inductive Pattern where
  /-- The empty text. -/
  | empty
  /-- One character of a set. -/
  | char (set : Pattern.CharSet)
  /-- The empty text at a position that meets a condition. -/
  | anchor (a : Pattern.Anchor)
  /-- A match of the first pattern and then one of the second. -/
  | seq (p q : Pattern)
  /-- A match of either pattern. -/
  | alt (p q : Pattern)
  /-- At least `least` matches one after the other, and at most `most`. -/
  | repeated (p : Pattern) (least : Nat) (most : Option Nat)
deriving Repr

namespace Pattern

/-- Positions without repetition. -/
def union (is js : List Nat) : List Nat :=
  js.foldl (fun is j => if is.contains j then is else j :: is) is

/-- The positions reached from `seen` in up to `n` rounds of a step, which starts from those in
`new`. -/
def spread (step : List Nat → List Nat) : Nat → List Nat → List Nat → List Nat
  | 0, seen, _ => seen
  | n + 1, seen, new =>
    let next := (step new).filter fun i => !seen.contains i
    if next.isEmpty then seen else spread step n (union seen next) next

/-- The positions reached in exactly `n` rounds of a step; rounds that change nothing are left
out. -/
def iterate (step : List Nat → List Nat) : Nat → List Nat → List Nat
  | 0, is => is
  | n + 1, is => if step is == is then is else iterate step n (step is)

/-- The positions where a match of the pattern can end that begins at one of the positions `is`. -/
def after (text : Array Char) : Pattern → List Nat → List Nat
  | .empty, is => is
  | .char set, is => (is.filter fun i => isAt text set.contains i).map (· + 1)
  | .anchor a, is => is.filter fun i => a.holds text i
  | .seq p q, is => after text q (after text p is)
  | .alt p q, is => union (after text p is) (after text q is)
  | .repeated p least most, is =>
    let first := iterate (after text p) least is
    let rounds := match most with
      | some most => most - least
      | none => text.size + 1
    spread (after text p) rounds first first

/-- Whether a match of the pattern begins somewhere in a text. -/
def occursIn (s : String) (p : Pattern) : Bool :=
  let text := s.toList.toArray
  !(p.after text (List.range (text.size + 1))).isEmpty

/-! ### Repetitions within repetitions -/

/-- Whether the pattern matches the empty text at every position. -/
def isNullable : Pattern → Bool
  | .empty => true
  | .char _ => false
  | .anchor _ => false
  | .seq p q => p.isNullable && q.isNullable
  | .alt p q => p.isNullable || q.isNullable
  | .repeated p least _ => least == 0 || p.isNullable

/-- A pattern that matches the same if it is repeated any number of times, with fewer
repetitions. -/
def loopBody : Pattern → Pattern
  | .seq p q => if p.isNullable && q.isNullable then .alt p.loopBody q.loopBody else .seq p q
  | .alt p q => .alt p.loopBody q.loopBody
  | .repeated p least most =>
    if most != some 0 && (least ≤ 1 || p.isNullable) then p.loopBody else .repeated p least most
  | p => p

/-- A pattern that matches the same, with fewer repetitions within repetitions. -/
def simplified : Pattern → Pattern
  | .seq p q => .seq p.simplified q.simplified
  | .alt p q => .alt p.simplified q.simplified
  | .repeated p least none =>
    let p := p.simplified
    if p.isNullable then .repeated p.loopBody 0 none
    else if least ≤ 1 then .repeated p.loopBody least none
    else .repeated p least none
  | .repeated p least most => .repeated p.simplified least most
  | p => p

end Pattern

end MarkupTemplates
