import MarkupTemplates.Markup.Located
import MarkupTemplates.Markup.Piece
import MarkupTemplates.Markup.Tag
import MarkupTemplates.Text.Blank

/-!
# From pieces to a tree

A `Nesting` is how far a tree has come: the elements that are still open and the nodes that are
complete.  `Nesting.step` takes in one piece, `readTree` all pieces of a text.

Elements that never have content are complete with their opening tag, and their closing tags are
passed over.  Yet every closing tag answers an opening tag of some kind: a text may not have closed
more tags than it opened (`Nesting.unanswered` counts those it may still close).
-/

namespace MarkupTemplates.Markup

open Text (Span byteLength trimList)

/-- Why a text is no markup tree. -/
inductive NestingFault where
  /-- What stands here is no piece of markup. -/
  | piece (fault : PieceFault)
  /-- The attributes of a tag cannot be read. -/
  | attribute (fault : AttributeFault)
  /-- A text cannot be decoded. -/
  | reference (fault : Entity.Fault)
  /-- A closing tag answers no opening tag. -/
  | unanswering (name : String)
  /-- A closing tag stands where no element is open. -/
  | unexpectedClosing
  /-- A closing tag has another name than the element that is open. -/
  | mismatch (expected found : String)
  /-- An element is not closed. -/
  | unclosed (tag : String)
deriving DecidableEq, Repr

/-- The fault in words. -/
def NestingFault.message : NestingFault → String
  | .piece fault => fault.message
  | .attribute fault => fault.message
  | .reference fault => fault.message
  | .unanswering name =>
    "ill-formed document: close tag `</" ++ name ++ ">` does not match any open tag"
  | .unexpectedClosing => "unexpected closing tag"
  | .mismatch expected found => "expected </" ++ expected ++ ">, found </" ++ found ++ ">"
  | .unclosed tag => "unclosed element <" ++ tag ++ ">"

/-- A fault and its place. -/
structure NestingError where
  /-- The place. -/
  span : Span
  /-- The fault. -/
  fault : NestingFault
deriving DecidableEq, Repr

/-- How far a tree has come. -/
structure Nesting where
  /-- The number of bytes taken in. -/
  offset : Nat
  /-- The number of opening tags that a closing tag may still answer. -/
  unanswered : Nat
  /-- The open elements, the innermost first, with the places of their opening tags. -/
  opened : List LocatedElement
  /-- The complete nodes outside all open elements. -/
  top : List Located
deriving Repr

namespace Nesting

/-- The nesting of nothing. -/
def start : Nesting := ⟨0, 0, [], []⟩

/-- The nesting with a complete node added to the innermost open element. -/
def append (n : Nesting) (node : Located) : Nesting :=
  match n.opened with
  | [] => { n with top := n.top ++ [node] }
  | e :: outer => { n with opened := { e with children := e.children ++ [node] } :: outer }

/-- The nesting with a text added, trimmed if texts are; an empty text is left out. -/
def appendText (minify : Bool) (n : Nesting) (content : List Char) (span : Span) : Nesting :=
  let content := if minify then trimList content else content
  if content.isEmpty then n else n.append (.text (String.ofList content) span)

/-- The element that an opening tag at `span` begins. -/
def openElement (content : List Char) (span : Span) : Except NestingError LocatedElement :=
  match Tag.attributes content with
  | .ok attributes => .ok ⟨Tag.name content, attributes, [], span⟩
  | .error fault => .error ⟨span, .attribute fault⟩

/-- The nesting after an opening tag. -/
def openTag (n : Nesting) (content : List Char) (span : Span) : Except NestingError Nesting := do
  let e ← openElement content span
  let n := { n with unanswered := n.unanswered + 1 }
  if isVoid e.tag then return n.append (.element e.tag e.attributes [] span)
  else return { n with opened := e :: n.opened }

/-- The nesting after the tag of an element without content. -/
def selfClose (n : Nesting) (content : List Char) (span : Span) : Except NestingError Nesting := do
  let e ← openElement content span
  return n.append (.element e.tag e.attributes [] span)

/-- The name of a closing tag: its content without the white space at the end.  A content of white
space only is kept. -/
def closingName (content : List Char) : String :=
  let name := (content.reverse.dropWhile Char.isWhitespace).reverse
  String.ofList (if name.isEmpty then content else name)

/-- The nesting after a closing tag with this name has closed the innermost open element. -/
def close (n : Nesting) (name : String) (span : Span) : Except NestingError Nesting :=
  match n.opened with
  | [] => .error ⟨span, .unexpectedClosing⟩
  | e :: outer =>
    if e.tag = name then
      .ok (append { n with opened := outer }
        (.element e.tag e.attributes e.children ⟨e.span.start, span.stop⟩))
    else .error ⟨span, .mismatch e.tag name⟩

/-- The nesting after a closing tag. -/
def closeTag (n : Nesting) (content : List Char) (span : Span) : Except NestingError Nesting :=
  let name := closingName content
  match n.unanswered with
  | 0 => .error ⟨.byteAt span.start, .unanswering name⟩
  | k + 1 =>
    let n := { n with unanswered := k }
    if isVoid name then .ok n else n.close name span

/-- The nesting after the content of a piece that stands at `span`. -/
def take (minify : Bool) (n : Nesting) (span : Span) : Piece → Except NestingError Nesting
  | .text first rest =>
    match Entity.decode (first :: rest) with
    | .ok content => .ok (n.appendText minify content span)
    | .error fault => .error ⟨span, .reference fault⟩
  | .characterData content => .ok (n.appendText minify content span)
  | .opening content => n.openTag content span
  | .selfClosing content => n.selfClose content span
  | .closing content => n.closeTag content span
  | .comment _ => .ok n
  | .instruction _ => .ok n
  | .documentType _ _ => .ok n

/-- The nesting after one piece more. -/
def step (minify : Bool) (n : Nesting) (piece : Piece) : Except NestingError Nesting := do
  let stop := n.offset + byteLength piece.source
  let n ← n.take minify ⟨n.offset, stop⟩ piece
  return { n with offset := stop }

/-- The tree, if the text ends here. -/
def finish (n : Nesting) : Except NestingError (List Located) :=
  match n.opened with
  | [] => .ok n.top
  | e :: _ => .error ⟨e.span, .unclosed e.tag⟩

end Nesting

/-- The mark that may open a text; it is no part of it. -/
def byteOrderMark : Char := '\uFEFF'

/-- A text without the mark that may open it. -/
def dropMark : List Char → List Char
  | [] => []
  | c :: cs => if c = byteOrderMark then cs else c :: cs

/-- Reads the tree that a text stands for; with `minify`, texts are trimmed and dropped if nothing
is left.  The first fault in the text decides. -/
def readTree (minify : Bool) (cs : List Char) : Except NestingError (List Located) :=
  let (ps, fault) := pieces (dropMark cs)
  match ps.foldlM (Nesting.step minify) Nesting.start with
  | .error e => .error e
  | .ok n =>
    match fault with
    | some fault => .error ⟨.byteAt (n.offset + fault.distance), .piece fault⟩
    | none => n.finish

end MarkupTemplates.Markup
