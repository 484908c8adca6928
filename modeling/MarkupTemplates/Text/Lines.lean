/-!
# Lines of a text

A line ends with a line break, which is part of it; a carriage return and a line feed together are
one break.  The lines make up the text (`flatten_splitLines`).  `locate` finds the line of a
position, which is counted in characters; the end of the text is a place on the last line.
-/

namespace MarkupTemplates.Text

/-- The code points that end a line. -/
def lineBreaks : List Nat := [0x0A, 0x0B, 0x0C, 0x0D, 0x85, 0x2028, 0x2029]

/-- Whether a character ends a line. -/
def isLineBreak (c : Char) : Bool := lineBreaks.contains c.toNat

/-- Whether a line ends between two characters that follow each other. -/
def endsLine (c : Char) (next : Option Char) : Bool :=
  isLineBreak c && !(c == '\r' && next == some '\n')

/-- The lines of a text, each with its break. -/
def splitLines : List Char → List (List Char)
  | [] => []
  | c :: cs =>
    match splitLines cs with
    | [] => [[c]]
    | line :: lines => if endsLine c cs.head? then [c] :: line :: lines else (c :: line) :: lines

theorem flatten_splitLines (cs : List Char) : (splitLines cs).flatten = cs := by
  induction cs with
  | nil => rfl
  | cons c cs ih =>
    simp only [splitLines]
    split
    · rename_i h; rw [h] at ih; simp [← ih]
    · rename_i h
      rw [h] at ih
      split <;> simp [← ih]

/-- The line of a position, counted from `i` on, and the position in it. -/
def locateFrom (i : Nat) : List (List Char) → Nat → Option (Nat × Nat)
  | [], _ => none
  | [line], position => if position ≤ line.length then some (i, position) else none
  | line :: lines, position =>
    if position < line.length then some (i, position)
    else locateFrom (i + 1) lines (position - line.length)

/-- The line of a position in a text and the position in the line, both counted from zero; `none` if
the text is empty or shorter. -/
def locate (lines : List (List Char)) (position : Nat) : Option (Nat × Nat) :=
  locateFrom 0 lines position

end MarkupTemplates.Text
