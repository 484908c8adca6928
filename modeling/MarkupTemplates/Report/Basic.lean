import MarkupTemplates.Session.Load
import MarkupTemplates.Text.Blank
import MarkupTemplates.Text.Lines
import MarkupTemplates.Text.Width

/-!
# Reports

A report shows a message beside the place in a source that it speaks of.  A place on one line is
underlined, and an arrow leads from it to the message:

    Error: expected </p>, found </q>
       ╭─[bad.xml:4:8]
       │
     4 │     <p></q>
       │        ──┬─
       │          ╰─── expected </p>, found </q>
    ───╯

A place on several lines is marked at its first and last line; the lines between are left out.

The numbers of a span are taken as positions counted in characters.  Where the source has no such
place, only the message is written.
-/

namespace MarkupTemplates

open Text (Span splitLines locate)

namespace Report

/-! ### Columns -/

/-- The number of columns of a tab stop. -/
def tabWidth : Nat := 4

/-- The number of columns of the character at a position in its line. -/
def widthAt (position : Nat) (c : Char) : Nat :=
  if c = '\t' then tabWidth - position % tabWidth
  else if Text.isBlank c then 1
  else Text.charWidth c

/-- The characters of a line that are shown. -/
def shown (line : List Char) : List Char := Text.trimEndList line

/-- The number of columns of the character at a position in its line; one if none is shown there. -/
def columnsAt (line : List Char) (position : Nat) : Nat :=
  match (shown line)[position]? with
  | some c => widthAt position c
  | none => 1

/-- The line as it is shown: white space is blank, and tabs are filled up. -/
def lineText (line : List Char) : List Char :=
  (shown line).zipIdx.flatMap fun (c, position) =>
    if Text.isBlank c then List.replicate (widthAt position c) ' ' else [c]

/-- What fills the columns of one character: a mark, and the same filling in all further columns. -/
structure Fill where
  /-- The mark in the first column. -/
  mark : Char
  /-- The filling of the other columns. -/
  rest : Char

/-- A row that stands under the first `count` characters of a line. -/
def row (line : List Char) (count : Nat) (fill : Nat → Fill) : List Char :=
  (List.range count).flatMap fun position =>
    match columnsAt line position with
    | 0 => []
    | width + 1 => (fill position).mark :: List.replicate width (fill position).rest

/-- The number of columns of the first `count` characters of a line. -/
def columnsUpTo (line : List Char) (count : Nat) : Nat :=
  ((List.range count).map (columnsAt line)).foldr (· + ·) 0

/-! ### Rows -/

/-- Blanks. -/
def blanks (n : Nat) : List Char := List.replicate n ' '

/-- What is left of a row that shows no line; `width` is the width of the line numbers. -/
def margin (width : Nat) : List Char := blanks (width + 2) ++ ['│', ' ']

/-- What is left of the row that shows line `i`, counted from zero. -/
def numberedMargin (width i : Nat) : List Char :=
  let number := (toString (i + 1)).toList
  ' ' :: blanks (width - number.length) ++ number ++ [' ', '│', ' ']

/-- The rows for a place from `start` to `stop` on line `i`. -/
def inlineRows (width i : Nat) (line : List Char) (start stop anchor : Nat) (message : List Char) :
    List (List Char) :=
  if line.length < stop then [margin width]
  else
    let under (position : Nat) : Fill :=
      if start ≤ position ∧ position < stop then ⟨if position = anchor then '┬' else '─', '─'⟩
      else ⟨if position = anchor then '│' else ' ', ' '⟩
    let arrow (position : Nat) : Fill :=
      if position < anchor then ⟨' ', ' '⟩
      else ⟨if position = anchor then '╰' else '─', '─'⟩
    [numberedMargin width i ++ lineText line,
     margin width ++ row line (stop + 2) under,
     margin width ++ row line (stop + 2) arrow ++ ' ' :: message]

/-- The rows for a place from line `i` to line `j`; `ends` says whether it ends within line `j`. -/
def spreadRows (width i j : Nat) (lines : List (List Char)) (ends : Bool) (message : List Char) :
    List (List Char) :=
  let first := numberedMargin width i ++ ['╭', '─', '▶', ' '] ++ lineText (lines.getD i [])
  let last := lines.getD j []
  let gap :=
    if i + 1 < j || !ends then [blanks (width + 2) ++ ['┆', ' ', '┆', ' ', ' ', ' ']] else []
  let reach := columnsUpTo last (last.length + 2) + 3
  let close :=
    if ends then
      [numberedMargin width j ++ ['├', '─', '▶', ' '] ++ lineText last,
       margin width ++ '│' :: blanks reach,
       margin width ++ '╰' :: List.replicate reach '─' ++ ' ' :: message]
    else []
  first :: gap ++ close

/-- The rows for a place in a text, with the line and column where it begins and the width of the
line numbers; `none` if the text has no such place. -/
def rows? (lines : List (List Char)) (span : Span) (message : List Char) :
    Option ((Nat × Nat) × Nat × List (List Char)) := do
  let (i, column) ← locate lines span.start
  let (j, lastColumn) ← locate lines (max span.start (span.stop - 1))
  let width := (toString (j + 1)).length
  let line := lines.getD i []
  let lineStart := span.start - column
  let rows :=
    if i = j then
      let anchor := max span.start ((span.start + span.stop) / 2)
      inlineRows width i line column (span.stop - lineStart) (anchor - lineStart) message
    else spreadRows width i j lines (lastColumn < (lines.getD j []).length) message
  return ((i + 1, column + 1), width, rows)

/-- The report of a message on a place in a source. -/
def write (name source : String) (span : Span) (message : String) : String :=
  let head := "Error: " ++ message ++ "\n"
  match rows? (splitLines source.toList) span message.toList with
  | none => head
  | some ((line, column), width, rows) =>
    let blank := String.ofList (blanks (width + 2))
    let place := blank ++ "╭─[" ++ name ++ ":" ++ toString line ++ ":" ++ toString column ++ "]\n"
    let body := String.join (rows.map fun r => String.ofList r ++ "\n")
    let foot := String.ofList (List.replicate (width + 2) '─') ++ "╯\n"
    head ++ place ++ blank ++ "│\n" ++ body ++ foot

end Report

/-- The report of a faulty source. -/
def SourceError.report (e : SourceError) (name source : String) : String :=
  Report.write name source e.span e.message

/-- The report of a source that cannot be loaded. -/
def LoadError.report (e : LoadError) (name source : String) : String :=
  match e with
  | .source errors => "\n".intercalate (errors.map (·.report name source))
  | .store error => name ++ ": " ++ error.message

end MarkupTemplates
