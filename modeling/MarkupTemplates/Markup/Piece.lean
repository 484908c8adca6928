import MarkupTemplates.Text.Span

/-!
# The pieces of a markup text

Markup text is a row of pieces: texts, tags, comments, character data, instructions and document
type declarations.  `pieces` cuts a text into pieces, up to its end or to the first place where no
piece can be read.  A piece keeps what it was written as: its `source` and the rest make up the text
it was read from (`source_append_of_read`), so no piece is empty (`Piece.source_ne_nil`) and the
loop ends.

A tag ends at the first `>` outside quotes.
-/

namespace MarkupTemplates.Markup

/-- A piece of markup text. -/
inductive Piece where
  /-- Text up to the next `<`, as it is written. -/
  | text (first : Char) (rest : List Char)
  /-- An opening tag, without its brackets. -/
  | opening (content : List Char)
  /-- The tag of an element without content, without brackets and slash. -/
  | selfClosing (content : List Char)
  /-- A closing tag, without brackets and slash. -/
  | closing (content : List Char)
  /-- Character data, which stands for itself. -/
  | characterData (content : List Char)
  /-- A comment. -/
  | comment (content : List Char)
  /-- A processing instruction or declaration. -/
  | instruction (content : List Char)
  /-- A document type declaration: its keyword as written, and what follows it. -/
  | documentType (keyword content : List Char)
deriving DecidableEq, Repr

/-- Why no piece can be read at a `<`. -/
inductive PieceFault where
  /-- The tag is not closed. -/
  | openTag
  /-- The comment is not closed. -/
  | openComment
  /-- The character data is not closed. -/
  | openCharacterData
  /-- The document type declaration is not closed. -/
  | openDocumentType
  /-- The instruction is not closed. -/
  | openInstruction
  /-- What begins with `<!` is none of the things that do. -/
  | unknownDeclaration
  /-- The document type has no name; its `>` is this many bytes after the `<`. -/
  | namelessDocumentType (distance : Nat)
deriving DecidableEq, Repr

namespace PieceFault

/-- What is said of something that runs to the end of the text. -/
def unclosed (what mark : String) : String :=
  "syntax error: " ++ what ++ " not closed: `" ++ mark ++ "` not found before end of input"

/-- The fault in words. -/
def message : PieceFault → String
  | .openTag => unclosed "tag" ">"
  | .openComment => unclosed "comment" "-->"
  | .openCharacterData => unclosed "CDATA" "]]>"
  | .openDocumentType => unclosed "DOCTYPE" ">"
  | .openInstruction => unclosed "processing instruction or xml declaration" "?>"
  | .unknownDeclaration => "syntax error: unknown or missed symbol in markup"
  | .namelessDocumentType _ =>
    "ill-formed document: `<!DOCTYPE>` declaration does not contain a name of a document type"

/-- How far after the `<` the fault lies, in bytes. -/
def distance : PieceFault → Nat
  | .namelessDocumentType distance => distance
  | _ => 0

end PieceFault

namespace Piece

/-! ### Cutting at an end mark -/

/-- The text before the first `mark` and the text after it. -/
def cutAt (mark : List Char) : List Char → Option (List Char × List Char)
  | [] => none
  | c :: cs =>
    if mark.isPrefixOf (c :: cs) then some ([], (c :: cs).drop mark.length)
    else (cutAt mark cs).map fun (before, after) => (c :: before, after)

/-- Cutting at a mark loses nothing: the parts and the mark between them make up the text. -/
theorem append_of_cutAt {mark cs before after : List Char}
    (h : cutAt mark cs = some (before, after)) : before ++ mark ++ after = cs := by
  induction cs generalizing before with
  | nil => simp [cutAt] at h
  | cons c cs ih =>
    simp only [cutAt] at h
    split at h
    · rename_i hp
      obtain ⟨rest, hrest⟩ := List.isPrefixOf_iff_prefix.mp hp
      simp only [Option.some.injEq, Prod.mk.injEq] at h
      obtain ⟨rfl, rfl⟩ := h
      simp [← hrest]
    · obtain ⟨⟨b, a⟩, hcut, hba⟩ := Option.map_eq_some_iff.mp h
      simp only [Prod.mk.injEq] at hba
      obtain ⟨rfl, rfl⟩ := hba
      simpa using ih hcut

/-- The content of a tag and the text after its `>`; `quote` is the quote that is still open. -/
def cutTag (quote : Option Char) : List Char → Option (List Char × List Char)
  | [] => none
  | c :: cs =>
    match quote with
    | none =>
      if c = '>' then some ([], cs)
      else
        (cutTag (if c = '"' ∨ c = '\'' then some c else none) cs).map fun (content, after) =>
          (c :: content, after)
    | some q =>
      (cutTag (if c = q then none else some q) cs).map fun (content, after) => (c :: content, after)

/-- Cutting at the end of a tag loses nothing but the bracket. -/
theorem append_of_cutTag {quote : Option Char} {cs content after : List Char}
    (h : cutTag quote cs = some (content, after)) : content ++ '>' :: after = cs := by
  induction cs generalizing quote content with
  | nil => simp [cutTag] at h
  | cons c cs ih =>
    simp only [cutTag] at h
    split at h
    · split at h
      · rename_i hc
        simp only [Option.some.injEq, Prod.mk.injEq] at h
        obtain ⟨rfl, rfl⟩ := h
        simp [hc]
      · obtain ⟨⟨b, a⟩, hcut, hba⟩ := Option.map_eq_some_iff.mp h
        simp only [Prod.mk.injEq] at hba
        obtain ⟨rfl, rfl⟩ := hba
        simpa using ih hcut
    · obtain ⟨⟨b, a⟩, hcut, hba⟩ := Option.map_eq_some_iff.mp h
      simp only [Prod.mk.injEq] at hba
      obtain ⟨rfl, rfl⟩ := hba
      simpa using ih hcut

/-- The text before the `>` that closes as many `<` as there are, `depth` being open already. -/
def cutBalanced (depth : Nat) : List Char → Option (List Char × List Char)
  | [] => none
  | c :: cs =>
    if c = '>' ∧ depth = 0 then some ([], cs)
    else
      let depth := if c = '<' then depth + 1 else if c = '>' then depth - 1 else depth
      (cutBalanced depth cs).map fun (before, after) => (c :: before, after)

theorem append_of_cutBalanced {depth : Nat} {cs before after : List Char}
    (h : cutBalanced depth cs = some (before, after)) : before ++ '>' :: after = cs := by
  induction cs generalizing depth before with
  | nil => simp [cutBalanced] at h
  | cons c cs ih =>
    simp only [cutBalanced] at h
    split at h
    · rename_i hc
      simp only [Option.some.injEq, Prod.mk.injEq] at h
      obtain ⟨rfl, rfl⟩ := h
      simp [hc.1]
    · obtain ⟨⟨b, a⟩, hcut, hba⟩ := Option.map_eq_some_iff.mp h
      simp only [Prod.mk.injEq] at hba
      obtain ⟨rfl, rfl⟩ := hba
      simpa using ih hcut

/-! ### Reading one piece -/

/-- What opens a comment, after `<!`. -/
def commentOpen : List Char := ['-', '-']

/-- What closes a comment. -/
def commentClose : List Char := ['-', '-', '>']

/-- What opens character data, after `<!`. -/
def dataOpen : List Char := ['[', 'C', 'D', 'A', 'T', 'A', '[']

/-- What closes character data. -/
def dataClose : List Char := [']', ']', '>']

/-- What closes an instruction. -/
def instructionClose : List Char := ['?', '>']

/-- The keyword of a document type declaration, in capitals. -/
def documentTypeKeyword : List Char := ['D', 'O', 'C', 'T', 'Y', 'P', 'E']

/-- The piece as it is written. -/
def source : Piece → List Char
  | .text first rest => first :: rest
  | .opening content => '<' :: content ++ ['>']
  | .selfClosing content => '<' :: content ++ ['/', '>']
  | .closing content => '<' :: '/' :: content ++ ['>']
  | .comment content => '<' :: '!' :: commentOpen ++ content ++ commentClose
  | .characterData content => '<' :: '!' :: dataOpen ++ content ++ dataClose
  | .instruction content => '<' :: '?' :: content ++ instructionClose
  | .documentType keyword content => '<' :: '!' :: keyword ++ content ++ ['>']

/-- A piece has at least one character. -/
theorem source_ne_nil (p : Piece) : p.source ≠ [] := by cases p <;> simp [source]

/-- A piece and what it leaves of the text. -/
abbrev Read := Except PieceFault (Piece × List Char)

/-- Reads the content of a piece up to its end mark. -/
def readUpTo (mark : List Char) (piece : List Char → Piece) (fault : PieceFault)
    (cs : List Char) : Read :=
  match cutAt mark cs with
  | some (content, rest) => .ok (piece content, rest)
  | none => .error fault

/-- Reads the content of a piece that begins with `opening`, up to its end mark. -/
def readBetween (opening mark : List Char) (piece : List Char → Piece) (fault : PieceFault)
    (cs : List Char) : Read :=
  if opening.isPrefixOf cs then readUpTo mark piece fault (cs.drop opening.length) else .error fault

/-- The opening tag with this content; a slash at its end closes the element at once. -/
def ofTagContent (content : List Char) : Piece :=
  if content.getLast? = some '/' then .selfClosing content.dropLast else .opening content

/-- Reads a tag up to its `>`. -/
def readTag (piece : List Char → Piece) (cs : List Char) : Read :=
  match cutTag none cs with
  | some (content, rest) => .ok (piece content, rest)
  | none => .error .openTag

/-- Reads a document type declaration, given the text after `<!`. -/
def readDocumentType (cs : List Char) : Read :=
  if (cs.take 7).map Char.toUpper = documentTypeKeyword then
    match cutBalanced 0 (cs.drop 7) with
    | some (content, rest) =>
      if content.all Char.isWhitespace then
        .error (.namelessDocumentType (9 + Text.byteLength content))
      else .ok (.documentType (cs.take 7) content, rest)
    | none => .error .openDocumentType
  else .error .openDocumentType

/-- Reads what begins with `<!`, given the text after it. -/
def readDeclaration (cs : List Char) : Read :=
  match cs.head? with
  | none => .error .unknownDeclaration
  | some c =>
    if c = '-' then readBetween commentOpen commentClose .comment .openComment cs
    else if c = '[' then readBetween dataOpen dataClose .characterData .openCharacterData cs
    else if c = 'D' ∨ c = 'd' then readDocumentType cs
    else .error .unknownDeclaration

/-- Reads an instruction, given the text after `<?`. -/
def readInstruction (cs : List Char) : Read :=
  if cs.head? = some '>' then .error .openInstruction
  else readUpTo instructionClose .instruction .openInstruction cs

/-- Reads what begins with `<`, given the text after it. -/
def readMarkup : List Char → Read
  | [] => .error .openTag
  | c :: cs =>
    if c = '!' then readDeclaration cs
    else if c = '?' then readInstruction cs
    else if c = '/' then readTag .closing cs
    else readTag ofTagContent (c :: cs)

/-- Reads the piece that begins with `c`, given the text after it. -/
def read (c : Char) (cs : List Char) : Read :=
  if c = '<' then readMarkup cs
  else .ok (.text c (cs.takeWhile (· != '<')), cs.dropWhile (· != '<'))

/-! ### Nothing is lost -/

/-- A piece that is read up to a mark makes up, with the mark, what was read. -/
theorem append_of_readUpTo {mark : List Char} {piece : List Char → Piece} {fault : PieceFault}
    {cs rest : List Char} {p : Piece} (h : readUpTo mark piece fault cs = .ok (p, rest)) :
    ∃ content, p = piece content ∧ content ++ mark ++ rest = cs := by
  simp only [readUpTo] at h
  split at h
  · rename_i content after hcut
    simp only [Except.ok.injEq, Prod.mk.injEq] at h
    obtain ⟨rfl, rfl⟩ := h
    exact ⟨content, rfl, append_of_cutAt hcut⟩
  · simp at h

theorem append_of_readBetween {opening mark : List Char} {piece : List Char → Piece}
    {fault : PieceFault} {cs rest : List Char} {p : Piece}
    (h : readBetween opening mark piece fault cs = .ok (p, rest)) :
    ∃ content, p = piece content ∧ opening ++ content ++ mark ++ rest = cs := by
  simp only [readBetween] at h
  split at h
  · rename_i hp
    obtain ⟨tail, rfl⟩ := List.isPrefixOf_iff_prefix.mp hp
    obtain ⟨content, rfl, hc⟩ := append_of_readUpTo h
    refine ⟨content, rfl, ?_⟩
    rw [List.drop_left] at hc
    simp only [List.append_assoc] at hc ⊢
    rw [hc]
  · simp at h

/-- A tag makes up, with its bracket, what was read. -/
theorem append_of_readTag {piece : List Char → Piece} {cs rest : List Char} {p : Piece}
    (h : readTag piece cs = .ok (p, rest)) :
    ∃ content, p = piece content ∧ content ++ '>' :: rest = cs := by
  simp only [readTag] at h
  split at h
  · rename_i content after hcut
    simp only [Except.ok.injEq, Prod.mk.injEq] at h
    obtain ⟨rfl, rfl⟩ := h
    exact ⟨content, rfl, append_of_cutTag hcut⟩
  · simp at h

/-- The source of a tag is its content between brackets, whether it closes itself or not. -/
theorem source_ofTagContent (content : List Char) :
    (ofTagContent content).source = '<' :: content ++ ['>'] := by
  simp only [ofTagContent]
  split
  · rename_i h
    obtain ⟨init, rfl⟩ := List.getLast?_eq_some_iff.mp h
    simp [source]
  · rfl

theorem source_append_of_readDocumentType {cs rest : List Char} {p : Piece}
    (h : readDocumentType cs = .ok (p, rest)) : p.source ++ rest = '<' :: '!' :: cs := by
  simp only [readDocumentType] at h
  split at h
  · split at h
    · rename_i content after hcut
      split at h
      · simp at h
      · simp only [Except.ok.injEq, Prod.mk.injEq] at h
        obtain ⟨rfl, rfl⟩ := h
        simp [source, append_of_cutBalanced hcut, List.take_append_drop]
    · simp at h
  · simp at h

theorem source_append_of_readDeclaration {cs rest : List Char} {p : Piece}
    (h : readDeclaration cs = .ok (p, rest)) : p.source ++ rest = '<' :: '!' :: cs := by
  simp only [readDeclaration] at h
  split at h
  · simp at h
  · split at h
    · obtain ⟨content, rfl, hc⟩ := append_of_readBetween h
      simp [source, ← hc]
    · split at h
      · obtain ⟨content, rfl, hc⟩ := append_of_readBetween h
        simp [source, ← hc]
      · split at h
        · exact source_append_of_readDocumentType h
        · simp at h

theorem source_append_of_readMarkup {cs rest : List Char} {p : Piece}
    (h : readMarkup cs = .ok (p, rest)) : p.source ++ rest = '<' :: cs := by
  cases cs with
  | nil => simp [readMarkup] at h
  | cons c cs =>
    simp only [readMarkup] at h
    split at h
    · rename_i hc
      rw [hc]; exact source_append_of_readDeclaration h
    · split at h
      · rename_i hc
        simp only [readInstruction] at h
        split at h
        · simp at h
        · obtain ⟨content, rfl, hcs⟩ := append_of_readUpTo h
          simp [source, ← hcs, hc]
      · split at h
        · rename_i hc
          obtain ⟨content, rfl, hcs⟩ := append_of_readTag h
          simp [source, ← hcs, hc]
        · obtain ⟨content, rfl, hcs⟩ := append_of_readTag h
          simp [source_ofTagContent, ← hcs]

/-- Nothing is lost: a piece as it is written and the rest are the text it was read from. -/
theorem source_append_of_read {c : Char} {cs rest : List Char} {p : Piece}
    (h : read c cs = .ok (p, rest)) : p.source ++ rest = c :: cs := by
  simp only [read] at h
  split at h
  · rename_i hc
    rw [hc]; exact source_append_of_readMarkup h
  · simp only [Except.ok.injEq, Prod.mk.injEq] at h
    obtain ⟨rfl, rfl⟩ := h
    simp [source, List.takeWhile_append_dropWhile]

/-- Each piece that is read leaves less to read. -/
theorem length_lt_of_read {c : Char} {cs rest : List Char} {p : Piece}
    (h : read c cs = .ok (p, rest)) : rest.length < (c :: cs).length := by
  have hlen := congrArg List.length (source_append_of_read h)
  have hpos := List.length_pos_iff.mpr p.source_ne_nil
  simp only [List.length_append] at hlen
  omega

end Piece

/-- The pieces of a text up to its end or up to the first fault. -/
def pieces : List Char → List Piece × Option PieceFault
  | [] => ([], none)
  | c :: cs =>
    match _h : Piece.read c cs with
    | .ok (piece, rest) =>
      let (more, fault) := pieces rest
      (piece :: more, fault)
    | .error fault => ([], some fault)
termination_by cs => cs.length
decreasing_by exact Piece.length_lt_of_read _h

/-- The pieces as they are written are the text, up to the fault if there is one. -/
theorem flatMap_source_pieces_isPrefix (cs : List Char) :
    (pieces cs).1.flatMap Piece.source <+: cs := by
  fun_induction pieces cs with
  | case1 => simp
  | case2 c cs piece rest h more fault hrec ih =>
    rw [hrec] at ih
    rw [List.flatMap_cons, ← Piece.source_append_of_read h]
    exact (List.prefix_append_right_inj _).mpr ih
  | case3 c cs fault _h => simp

end MarkupTemplates.Markup
