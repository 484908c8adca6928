import MarkupTemplates.Text.Span

/-!
# Tokens of a path

`tokens` cuts the text of a path into tokens, each the longest that starts where it starts.  Spaces,
tabs and line breaks separate tokens and belong to none.  A character that starts no token is a
token of its own, and so is a quote that is never closed, up to the end of the text.

Nothing else is lost: a token's text and the rest make up the input (`scan_append`).
-/

namespace MarkupTemplates.Path

open Text (Span byteLength)

/-- What a token is. -/
inductive Symbol where
  /-- `/` -/
  | slash
  /-- `//` -/
  | doubleSlash
  /-- `.` -/
  | dot
  /-- `*` -/
  | star
  /-- `[` -/
  | openBracket
  /-- `]` -/
  | closeBracket
  /-- `@` -/
  | at
  /-- `=` -/
  | equals
  /-- A tag or attribute name. -/
  | name (text : String)
  /-- A quoted string, without its quotes. -/
  | string (text : String)
  /-- A character no other token starts with. -/
  | unknown
deriving DecidableEq, Repr

/-- A symbol as messages name it. -/
def Symbol.describe : Symbol → String
  | .slash => "'/'"
  | .doubleSlash => "'//'"
  | .dot => "'.'"
  | .star => "'*'"
  | .openBracket => "'['"
  | .closeBracket => "']'"
  | .at => "'@'"
  | .equals => "'='"
  | .name text => "name '" ++ text ++ "'"
  | .string text => "string '" ++ text ++ "'"
  | .unknown => "character"

/-- A symbol with the place where it stands. -/
structure Token where
  /-- What the token is. -/
  symbol : Symbol
  /-- Where it stands. -/
  span : Span
deriving DecidableEq, Repr

/-- Whether a name may begin with the character: an ASCII letter or an underscore. -/
def isNameStart (c : Char) : Bool := c.isAlpha || c == '_'

/-- Whether a name may go on with the character. -/
def isNameChar (c : Char) : Bool := c.isAlphanum || c == '_' || c == ':' || c == '.' || c == '-'

/-- The first token of a text: its symbol, the characters after its first one, and the rest. -/
structure Scanned where
  /-- What the token is. -/
  symbol : Symbol
  /-- The token without its first character. -/
  tail : List Char
  /-- The text after the token. -/
  rest : List Char

/-- The string that starts at a quote, or an unknown character if it is never closed. -/
def scanString (quote : Char) (cs : List Char) : Scanned :=
  match cs.dropWhile (· != quote) with
  | [] => ⟨.unknown, cs, []⟩
  | c :: rest =>
    let body := cs.takeWhile (· != quote)
    ⟨.string (String.ofList body), body ++ [c], rest⟩

/-- The token that starts at `c`, a character that is no separator, with `cs` after it. -/
def scan (c : Char) (cs : List Char) : Scanned :=
  match c, cs with
  | '/', '/' :: rest => ⟨.doubleSlash, ['/'], rest⟩
  | '/', _ => ⟨.slash, [], cs⟩
  | '.', _ => ⟨.dot, [], cs⟩
  | '*', _ => ⟨.star, [], cs⟩
  | '[', _ => ⟨.openBracket, [], cs⟩
  | ']', _ => ⟨.closeBracket, [], cs⟩
  | '@', _ => ⟨.at, [], cs⟩
  | '=', _ => ⟨.equals, [], cs⟩
  | '"', _ => scanString '"' cs
  | '\'', _ => scanString '\'' cs
  | _, _ =>
    if isNameStart c then
      ⟨.name (String.ofList (c :: cs.takeWhile isNameChar)), cs.takeWhile isNameChar,
        cs.dropWhile isNameChar⟩
    else ⟨.unknown, [], cs⟩

theorem scanString_append (quote : Char) (cs : List Char) :
    (scanString quote cs).tail ++ (scanString quote cs).rest = cs := by
  have h := List.takeWhile_append_dropWhile (p := (· != quote)) (l := cs)
  simp only [scanString]
  split
  · simp
  · rename_i c rest hd
    rw [hd] at h
    simpa using h

theorem scan_append (c : Char) (cs : List Char) : (scan c cs).tail ++ (scan c cs).rest = cs := by
  unfold scan
  split <;> try rfl
  · exact scanString_append _ _
  · exact scanString_append _ _
  · split
    · exact List.takeWhile_append_dropWhile
    · rfl

theorem length_rest_scan_le (c : Char) (cs : List Char) : (scan c cs).rest.length ≤ cs.length := by
  have h := congrArg List.length (scan_append c cs)
  simp only [List.length_append] at h
  omega

/-- The tokens of a text that begins at byte `offset`. -/
def tokensFrom (offset : Nat) : List Char → List Token
  | [] => []
  | c :: cs =>
    if c.isWhitespace then tokensFrom (offset + c.utf8Size) cs
    else
      let token := scan c cs
      let stop := offset + byteLength (c :: token.tail)
      ⟨token.symbol, ⟨offset, stop⟩⟩ :: tokensFrom stop token.rest
termination_by cs => cs.length
decreasing_by
  · simp
  · have := length_rest_scan_le c cs
    simp only [List.length_cons]; omega

/-- The tokens of a text. -/
def tokens (s : String) : List Token := tokensFrom 0 s.toList

example : (tokens "./a:b").map (·.symbol) = [.dot, .slash, .name "a:b"] := by cbv

end MarkupTemplates.Path
