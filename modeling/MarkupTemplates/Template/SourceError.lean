import MarkupTemplates.Path.Reading
import MarkupTemplates.Text.Span

/-!
# What is said of a faulty source

A `SourceError` tells the reader of a source what is wrong and where.  `message` says what is wrong,
`text` says it with the place.
-/

namespace MarkupTemplates

open Text (Span)

/-- A fault of a source and its place. -/
inductive SourceError where
  /-- A text is no path; the place is one in the path. -/
  | path (span : Span) (what : String) (expected : List String)
  /-- The markup is not well formed. -/
  | markup (span : Span) (what : String)
  /-- An element has an attribute twice. -/
  | repeatedAttribute (span : Span) (key : String)
  /-- A template has no id. -/
  | missingId (span : Span)
  /-- The path of a directive cannot be read. -/
  | directivePath (span : Span) (raw what : String)
  /-- The markup declares no template. -/
  | declaration (span : Span) (what : String)
deriving DecidableEq, Repr

namespace SourceError

/-- The place of the fault. -/
def span : SourceError → Span
  | .path span _ _ => span
  | .markup span _ => span
  | .repeatedAttribute span _ => span
  | .missingId span => span
  | .directivePath span _ _ => span
  | .declaration span _ => span

/-- The fault in words. -/
def message : SourceError → String
  | .path _ what expected =>
    if expected.isEmpty then what else what ++ "\nExpected: " ++ ", ".intercalate expected
  | .markup _ what => what
  | .repeatedAttribute _ key => "attribute '" ++ key ++ "' is repeated"
  | .missingId _ => "template has no id"
  | .directivePath _ raw what => "invalid path '" ++ raw ++ "': " ++ what
  | .declaration _ what => what

/-- The fault in words, with its place. -/
def text : SourceError → String
  | .path span what _ => "Parse error at " ++ span.text ++ ": " ++ what
  | .markup span what => "malformed markup at " ++ span.text ++ ": " ++ what
  | .repeatedAttribute span key => "duplicate attribute '" ++ key ++ "' at " ++ span.text
  | .missingId span => "template at " ++ span.text ++ " has no id"
  | .directivePath span raw what =>
    "invalid path '" ++ raw ++ "' at " ++ span.text ++ ": " ++ what
  | .declaration span what => "invalid declaration at " ++ span.text ++ ": " ++ what

/-- What is said of a text that is no path. -/
def ofPathFault (fault : Path.Fault) : SourceError :=
  .path fault.span fault.message fault.expected

end SourceError

end MarkupTemplates
