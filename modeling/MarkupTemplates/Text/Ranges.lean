/-!
# Ranges of code points

A class of characters is a list of closed ranges of code points.  `inRanges` looks a code point up;
`readRanges` reads the hexadecimal notation in which the longer classes of this library are written
down.  `tidyRanges` puts ranges in ascending order and apart, which is the form that
`complementRanges` needs and all other operations give.
-/

namespace MarkupTemplates.Text

/-- Closed ranges of code points, each with its first and its last. -/
abbrev Ranges := List (Nat × Nat)

/-- Whether `n` lies in one of the ranges. -/
def inRanges (ranges : Ranges) (n : Nat) : Bool :=
  ranges.any fun r => r.1 ≤ n && n ≤ r.2

/-! ### Notation -/

/-- The value of a hexadecimal digit, of either case. -/
def hexDigit? (c : Char) : Option Nat :=
  if '0' ≤ c ∧ c ≤ '9' then some (c.toNat - '0'.toNat)
  else if 'a' ≤ c ∧ c ≤ 'f' then some (c.toNat - 'a'.toNat + 10)
  else if 'A' ≤ c ∧ c ≤ 'F' then some (c.toNat - 'A'.toNat + 10)
  else none

/-- The value of a run of hexadecimal digits; other characters are passed over. -/
def hexValue (cs : List Char) : Nat :=
  cs.foldl (fun n c => 16 * n + (hexDigit? c).getD 0) 0

/-- The words of a text, that is its pieces between spaces. -/
def words (s : String) : List (List Char) :=
  go [] s.toList
where
  /-- `word` holds the characters of the current word, last one first. -/
  go (word : List Char) : List Char → List (List Char)
    | [] => if word.isEmpty then [] else [word.reverse]
    | c :: cs =>
      if c = ' ' then (if word.isEmpty then go [] cs else word.reverse :: go [] cs)
      else go (c :: word) cs

/-- The ranges of a word: `A`, or `A-B`, or `A-B/2` for every second code point from `A` to `B`. -/
def readRange (w : List Char) : Ranges :=
  let bounds := w.takeWhile (· != '/')
  let first := hexValue (bounds.takeWhile (· != '-'))
  match bounds.dropWhile (· != '-') with
  | [] => [(first, first)]
  | _ :: last =>
    let last := hexValue last
    if w.contains '/' then
      (List.range ((last - first) / 2 + 1)).map fun i => (first + 2 * i, first + 2 * i)
    else [(first, last)]

/-- The ranges of the words of a text. -/
def readRanges (s : String) : Ranges := (words s).flatMap readRange

example : readRanges "9-D 20 41-45/2" = [(9, 13), (32, 32), (65, 65), (67, 67), (69, 69)] := by
  decide

/-! ### Operations -/

/-- The last code point. -/
def lastCodePoint : Nat := 0x10FFFF

/-- Ranges in the order of their beginnings, those that touch joined; a range from `first` to `last`
stands before them. -/
def joinRanges (first last : Nat) : Ranges → Ranges
  | [] => [(first, last)]
  | (a, b) :: rs =>
    if a ≤ last + 1 then joinRanges first (max last b) rs else (first, last) :: joinRanges a b rs

/-- The same code points in ranges that ascend and do not touch. -/
def tidyRanges (rs : Ranges) : Ranges :=
  match rs.mergeSort fun r s => decide (r.1 ≤ s.1) with
  | [] => []
  | (a, b) :: rs => joinRanges a b rs

/-- The code points from `n` on that are in none of the ranges, which ascend. -/
def gapsFrom (n : Nat) : Ranges → Ranges
  | [] => if n ≤ lastCodePoint then [(n, lastCodePoint)] else []
  | (a, b) :: rs => if n < a then (n, a - 1) :: gapsFrom (b + 1) rs else gapsFrom (b + 1) rs

/-- The code points that are in none of the ranges, which are tidy. -/
def complementRanges (rs : Ranges) : Ranges := gapsFrom 0 rs

/-- The code points of both together. -/
def unionRanges (rs ss : Ranges) : Ranges := tidyRanges (rs ++ ss)

/-- The code points that both share. -/
def interRanges (rs ss : Ranges) : Ranges :=
  complementRanges (unionRanges (complementRanges rs) (complementRanges ss))

/-- The code points of the first that are not in the second. -/
def diffRanges (rs ss : Ranges) : Ranges := interRanges rs (complementRanges ss)

example : joinRanges 1 4 [(5, 6), (9, 9)] = [(1, 6), (9, 9)] := by decide

example : gapsFrom 0 [(0, 64), (91, 0x10FFFF)] = [(65, 90)] := by decide

end MarkupTemplates.Text
