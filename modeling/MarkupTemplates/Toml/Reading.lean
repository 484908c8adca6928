import MarkupTemplates.Toml.Scalar

/-!
# Reading TOML

`read?` reads a document line by line: empty lines, pairs of a key and a value, headers.  It answers
`none` for a text that is no document.

As each call of the mutual recursion takes a character or has taken one since the last time round,
twice the length of the text bounds its depth; that is the number the readers are given.  Apart from
it, keys and values must not be deep: `depthLimit` is the depth that neither may reach.
-/

namespace MarkupTemplates.Toml

/-- The number of parts that a key must stay below, and of arrays and inline tables within each
other. -/
def depthLimit : Nat := 80

/-- The text without spaces and tabs in front. -/
def skipGaps (cs : List Char) : List Char := cs.dropWhile isGap

/-- The text without a comment in front. -/
def skipComment : List Char → List Char
  | '#' :: cs => cs.dropWhile isPrintable
  | cs => cs

/-- What comes after the end of a line, which may hold blanks and a comment; `none` if there is
more. -/
def endLine (cs : List Char) : Option (List Char) :=
  let cs := skipComment (skipGaps cs)
  if cs.isEmpty then some [] else if beginsWithBreak cs then some (dropBreak cs) else none

/-- The text without blanks, line breaks and whole comments in front. -/
def skipLines : Nat → List Char → List Char
  | 0, cs => cs
  | n + 1, cs =>
    let cs := skipGaps cs
    if beginsWithBreak (skipComment cs) then skipLines n (dropBreak (skipComment cs)) else cs

/-! ### Keys -/

/-- Whether a character can be part of a key without quotes. -/
def isBareKeyChar (c : Char) : Bool := c.isAlphanum || c == '_' || c == '-'

/-- Reads one part of a key. -/
def readKeyPart (cs : List Char) : Option (String × List Char) :=
  let bare := cs.takeWhile isBareKeyChar
  if bare.isEmpty then (readShortString cs).map fun (s, rest) => (String.ofList s, rest)
  else some (String.ofList bare, cs.dropWhile isBareKeyChar)

/-- Reads the parts of a dotted key: those before the last, and the last. -/
def readKeyParts : Nat → List Char → Option ((List String × String) × List Char)
  | 0, _ => none
  | n + 1, cs => do
    let (part, rest) ← readKeyPart (skipGaps cs)
    match skipGaps rest with
    | '.' :: rest =>
      let ((path, key), rest) ← readKeyParts n rest
      return ((part :: path, key), rest)
    | rest => return (([], part), rest)

/-- Reads a dotted key that has not too many parts. -/
def readKey (n : Nat) (cs : List Char) : Option ((List String × String) × List Char) :=
  (readKeyParts n cs).filter fun ((path, _), _) => path.length + 1 < depthLimit

/-! ### Values -/

mutual

/-- Reads a value that stands within `depth` arrays and inline tables. -/
def readValue : Nat → Nat → List Char → Option (Value × List Char)
  | 0, _, _ => none
  | _ + 1, _, [] => none
  | n + 1, depth, c :: cs =>
    if c = '"' ∨ c = '\'' then
      (readString (c :: cs)).map fun (s, rest) => (.string (String.ofList s), rest)
    else if c ≠ '[' ∧ c ≠ '\x7b' then readWord (c :: cs)
    else if depth + 1 ≥ depthLimit then none
    else if c = '[' then
      (readItems n (depth + 1) cs).map fun (items, rest) => (.array items, rest)
    else
      match skipGaps cs with
      | '\x7d' :: rest => some (.table .inline [], rest)
      | rest =>
        (readPairs n (depth + 1) [] rest).map fun (pairs, rest) => (.table .inline pairs, rest)

/-- Reads the rest of an array. -/
def readItems : Nat → Nat → List Char → Option (List Value × List Char)
  | 0, _, _ => none
  | n + 1, depth, cs =>
    match skipLines n cs with
    | ']' :: rest => some ([], rest)
    | cs => do
      let (item, rest) ← readValue n depth cs
      match skipLines n rest with
      | ',' :: rest =>
        let (items, rest) ← readItems n depth rest
        return (item :: items, rest)
      | ']' :: rest => return ([item], rest)
      | _ => none

/-- Reads the rest of a table between braces, of which `pairs` have been read. -/
def readPairs : Nat → Nat → Pairs → List Char → Option (Pairs × List Char)
  | 0, _, _, _ => none
  | n + 1, depth, pairs, cs => do
    let ((path, key), rest) ← readKey n cs
    match rest with
    | '=' :: rest =>
      let (value, rest) ← readValue n depth (skipGaps rest)
      let pairs ← assign path key value .header pairs
      match skipGaps rest with
      | ',' :: rest => readPairs n depth pairs rest
      | '\x7d' :: rest => return (pairs, rest)
      | _ => none
    | _ => none

end

/-! ### Documents -/

/-- A document that is being read: all of it, and the path to the table of the last header. -/
structure Draft where
  /-- The pairs of the document. -/
  root : Pairs := []
  /-- The path to the table that pairs go to. -/
  current : List String := []
deriving Repr

namespace Draft

/-- The document with a pair more in the current table. -/
def assign (d : Draft) (path : List String) (key : String) (value : Value) : Option Draft :=
  (changeAt false (Toml.assign path key value) d.current .header d.root).map fun root =>
    { d with root }

/-- Reads a pair and the end of its line. -/
def readPair (n : Nat) (d : Draft) (cs : List Char) : Option (Draft × List Char) := do
  let ((path, key), rest) ← readKey n cs
  match rest with
  | '=' :: rest =>
    let (value, rest) ← readValue n 0 (skipGaps rest)
    let d ← d.assign path key value
    return (d, ← endLine rest)
  | _ => none

/-- Reads a header, given what stands after its first bracket, and the end of its line. -/
def readHeader (n : Nat) (d : Draft) (cs : List Char) : Option (Draft × List Char) :=
  match cs with
  | '[' :: cs => do
    let ((path, key), rest) ← readKey n cs
    match rest with
    | ']' :: ']' :: rest =>
      let root ← openElement path key d.root
      return (⟨root, path ++ [key]⟩, ← endLine rest)
    | _ => none
  | cs => do
    let ((path, key), rest) ← readKey n cs
    match rest with
    | ']' :: rest =>
      let root ← openTable path key d.root
      return (⟨root, path ++ [key]⟩, ← endLine rest)
    | _ => none

/-- Reads the lines of a document; `size` is enough for each of them. -/
def readLines (size : Nat) : Nat → Draft → List Char → Option Draft
  | 0, d, cs => if cs.isEmpty then some d else none
  | n + 1, d, cs =>
    match skipGaps cs with
    | [] => some d
    | c :: rest =>
      if c = '#' ∨ c = '\n' ∨ c = '\r' then do readLines size n d (← endLine (c :: rest))
      else if c = '[' then do
        let (d, rest) ← d.readHeader size rest
        readLines size n d rest
      else do
        let (d, rest) ← d.readPair size (c :: rest)
        readLines size n d rest

end Draft

/-- Reads a document; a byte order mark may stand before it. -/
def read? (s : String) : Option Pairs :=
  let cs := match s.toList with
    | '\uFEFF' :: rest => rest
    | cs => cs
  (Draft.readLines (2 * cs.length + 2) (cs.length + 1) {} cs).map (·.root)

end MarkupTemplates.Toml
