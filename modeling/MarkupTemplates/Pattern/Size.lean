import MarkupTemplates.Pattern.Basic

/-!
# The size of patterns

Patterns are refused if they are too large.  The size of a pattern is the memory of an automaton
that reads the bytes of a text backwards: each state takes 32 bytes, each further way out of a state
some more.  Counted repetitions are written out, so their size grows with their counts; a set of
characters takes as many states as its characters have different beginnings in UTF-8.
-/

namespace MarkupTemplates.Pattern

/-! ### Sets of characters -/

/-- A range of the values that one byte of a sequence can have. -/
abbrev ByteRange := Nat × Nat

/-- The sequences of byte ranges for the numbers from `a` to `b`, where `k` more bytes of six bits
follow the first, to which `lead` is added. -/
def digitSequences (lead : Nat) : Nat → Nat → Nat → List (List ByteRange)
  | 0, a, b => [[(lead + a, lead + b)]]
  | k + 1, a, b =>
    let unit := 64 ^ (k + 1)
    let first := a / unit
    let last := b / unit
    let low := a % unit
    let high := b % unit
    if first = last then
      (digitSequences 0 k low high).map ((lead + first, lead + first) :: ·)
    else
      let head := if low = 0 then [] else
        (digitSequences 0 k low (unit - 1)).map ((lead + first, lead + first) :: ·)
      let tail := if high = unit - 1 then [] else
        (digitSequences 0 k 0 high).map ((lead + last, lead + last) :: ·)
      let start := if low = 0 then first else first + 1
      let upTo := if high = unit - 1 then last + 1 else last
      let middle := if start < upTo then
        [(lead + start, lead + upTo - 1) :: List.replicate (k + 1) (0, 63)] else []
      head ++ middle ++ tail

/-- The code points that take one to four bytes, with the number of bytes after the first and what
is added to the first. -/
def encodedRanges : List ((Nat × Nat) × Nat × Nat) :=
  [((0, 0x7F), 0, 0), ((0x80, 0x7FF), 1, 0xC0), ((0x800, 0xD7FF), 2, 0xE0),
   ((0xE000, 0xFFFF), 2, 0xE0), ((0x10000, 0x10FFFF), 3, 0xF0)]

/-- The sequences of byte ranges for the code points of a range. -/
def byteSequences (r : Nat × Nat) : List (List ByteRange) :=
  encodedRanges.flatMap fun (e, k, lead) =>
    let first := max r.1 e.1
    let last := min r.2 e.2
    if first ≤ last then digitSequences lead k first last else []

/-- The length of what two sequences have in common at their beginnings. -/
def commonLength : List ByteRange → List ByteRange → Nat
  | x :: xs, y :: ys => if x = y then commonLength xs ys + 1 else 0
  | _, _ => 0

/-- The number of different beginnings of sequences that follow on a first one. -/
def beginnings (previous : List ByteRange) : List (List ByteRange) → Nat
  | [] => 0
  | s :: rest => s.length - commonLength previous s + beginnings s rest

/-- The size of a set of characters.  A single character is a row of bytes. -/
def setSize (s : CharSet) : Nat :=
  let single : Option Nat :=
    match s.ranges with
    | [(a, b)] => if a = b then some a else none
    | _ => none
  match single with
  | some n => 32 * (Char.ofNat n).utf8Size
  | none =>
    let isAscii := s.ranges.all fun r => r.2 < 128
    if isAscii then 64 + if s.ranges.length ≤ 1 then 0 else 8 * s.ranges.length
    else
      let sequences := s.ranges.flatMap byteSequences
      64 + 4 * sequences.length + 32 * beginnings [] sequences

/-! ### Patterns -/

/-- Whether the pattern matches nothing but the empty text. -/
def isWidthless : Pattern → Bool
  | .empty => true
  | .char _ => false
  | .anchor _ => true
  | .seq p q => p.isWidthless && q.isWidthless
  | .alt p q => p.isWidthless && q.isWidthless
  | .repeated p _ most => p.isWidthless || most == some 0

/-- Whether the pattern can match the empty text. -/
def canBeEmpty : Pattern → Bool
  | .empty => true
  | .char _ => false
  | .anchor _ => true
  | .seq p q => p.canBeEmpty && q.canBeEmpty
  | .alt p q => p.canBeEmpty || q.canBeEmpty
  | .repeated p least _ => least == 0 || p.canBeEmpty

/-- The set of a pattern that is a choice between single characters. -/
def choice? : Pattern → Option CharSet
  | .char s => some s
  | .alt p q =>
    match p.choice?, q.choice? with
    | some s, some t => some (s.union t)
    | _, _ => none
  | _ => none

/-- The size of a repetition of a pattern of size `n`.  Of a pattern without width, one is
enough. -/
def repeatedSize (p : Pattern) (n least : Nat) (most : Option Nat) : Nat :=
  let least := if p.isWidthless then min least 1 else least
  let most := if p.isWidthless then some ((most.getD 1).min 1) else most
  match least, most with
  | 0, some 1 => n + 72
  | 0, none => if p.canBeEmpty then n + 112 else n + 40
  | least, none => least * n + 40
  | least, some most =>
    if most = 0 then 32
    else if least = most then least * n
    else (if least = 0 then 32 else least * n) + 32 + (most - least) * (n + 40)

/-- The size of a pattern, on its own and as one of several alternatives. -/
def sizes : Pattern → Nat × Nat
  | .empty => (32, 36)
  | .char s => (setSize s, setSize s + 4)
  | .anchor _ => (32, 36)
  | .seq p q =>
    let n := match p, q with
      | .empty, q => q.sizes.1
      | p, .empty => p.sizes.1
      | p, q => p.sizes.1 + q.sizes.1
    (n, n + 4)
  | .alt p q =>
    match (Pattern.alt p q).choice? with
    | some s => (setSize s, setSize s + 4)
    | none =>
      let n := p.sizes.2 + q.sizes.2
      (n + 64, n)
  | .repeated p least most =>
    let n := repeatedSize p p.sizes.1 least most
    (n, n + 4)

/-- The size of several patterns together, with what finds the place where a match begins. -/
def sizeOfAll (ps : List Pattern) : Nat :=
  104 + (ps.map fun p => p.sizes.1 + 32).foldr (· + ·) 0 + if ps.length ≤ 1 then 0 else 64 + 4 * ps.length

/-- The size that patterns may have together: ten binary megabytes. -/
def sizeLimit : Nat := 10 * Nat.pow 2 20

end MarkupTemplates.Pattern
