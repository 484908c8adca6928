import MarkupTemplates.Markup.Attributes
import MarkupTemplates.Markup.Entity.Decode

/-!
# The content of a tag

The content of an opening tag is a name, up to the first white space, and attributes.  An attribute
is a key, alone or with `=` and a value; the value stands in quotes of either kind or runs up to the
next white space.  A key alone has the empty value.  Values are decoded, and no key may come twice.
-/

namespace MarkupTemplates.Markup

open Text (byteLength)

/-- Why the attributes of a tag cannot be read. -/
inductive AttributeFault where
  /-- Nothing comes after an `=`; the content of the tag is `size` bytes long. -/
  | missingValue (size : Nat)
  /-- A quote is not closed; the content of the tag is `size` bytes long. -/
  | openQuote (size : Nat) (quote : Char)
  /-- A key comes twice. -/
  | repeated (key : String)
  /-- A value cannot be decoded. -/
  | reference (fault : Entity.Fault)
deriving DecidableEq, Repr

namespace AttributeFault

/-- The fault in words. -/
def message : AttributeFault → String
  | .missingValue size =>
    "position " ++ toString size ++ ": `=` must be followed by an attribute value"
  | .openQuote size quote =>
    "position " ++ toString size ++ ": missing closing quote `" ++ quote.toString ++
      "` in attribute value"
  | .repeated key => "attribute '" ++ key ++ "' is repeated"
  | .reference fault => fault.message

end AttributeFault

namespace Tag

/-- Whether a character goes on with a name or an unquoted value. -/
def isWordChar (c : Char) : Bool := !c.isWhitespace

/-- Whether a character goes on with a key. -/
def isKeyChar (c : Char) : Bool := isWordChar c && c != '='

/-- The name of a tag. -/
def name (content : List Char) : String := String.ofList (content.takeWhile isWordChar)

/-- What of a tag's content is left for its attributes. -/
def attributePart (content : List Char) : List Char := content.dropWhile isWordChar

/-- The text without the white space it begins with. -/
def skipSpace (cs : List Char) : List Char := cs.dropWhile Char.isWhitespace

/-- Reads the value that begins with `c`, as it is written. -/
def readValue (size : Nat) (c : Char) (cs : List Char) :
    Except AttributeFault (List Char × List Char) :=
  if c = '"' ∨ c = '\'' then
    match cs.dropWhile (· != c) with
    | [] => .error (.openQuote size c)
    | _ :: rest => .ok (cs.takeWhile (· != c), rest)
  else .ok (c :: cs.takeWhile isWordChar, cs.dropWhile isWordChar)

/-- Reads what may follow a key: `=` and a value, or nothing. -/
def readBinding (size : Nat) : List Char → Except AttributeFault (List Char × List Char)
  | [] => .ok ([], [])
  | c :: cs =>
    if c = '=' then
      match skipSpace cs with
      | [] => .error (.missingValue size)
      | d :: ds => readValue size d ds
    else .ok ([], c :: cs)

theorem length_dropWhile_le {p : Char → Bool} (cs : List Char) :
    (cs.dropWhile p).length ≤ cs.length :=
  (List.dropWhile_sublist p).length_le

theorem length_le_of_readValue {size : Nat} {c : Char} {cs value rest : List Char}
    (h : readValue size c cs = .ok (value, rest)) : rest.length ≤ cs.length := by
  simp only [readValue] at h
  split at h
  · split at h
    · simp at h
    · rename_i d rest' hd
      have hle := length_dropWhile_le (p := (· != c)) cs
      rw [hd] at hle
      simp only [Except.ok.injEq, Prod.mk.injEq] at h
      simp only [List.length_cons] at hle
      rw [← h.2]; omega
  · simp only [Except.ok.injEq, Prod.mk.injEq] at h
    rw [← h.2]; exact length_dropWhile_le cs

theorem length_le_of_readBinding {size : Nat} {cs value rest : List Char}
    (h : readBinding size cs = .ok (value, rest)) : rest.length ≤ cs.length := by
  cases cs with
  | nil => simp only [readBinding, Except.ok.injEq, Prod.mk.injEq] at h; simp [← h.2]
  | cons c cs =>
    simp only [readBinding] at h
    split at h
    · split at h
      · simp at h
      · rename_i d ds hd
        have hle := length_dropWhile_le (p := Char.isWhitespace) cs
        rw [← skipSpace, hd] at hle
        have := length_le_of_readValue h
        simp only [List.length_cons] at hle ⊢
        omega
    · simp only [Except.ok.injEq, Prod.mk.injEq] at h
      simp [← h.2]

/-- The mapping with an attribute as it is written added to it. -/
def bind (attributes : Attributes) (key : String) (raw : List Char) :
    Except AttributeFault Attributes :=
  if attributes.contains key then .error (.repeated key)
  else
    match Entity.decode raw with
    | .ok value => .ok (attributes.insert key (String.ofList value))
    | .error fault => .error (.reference fault)

/-- Reads attributes to the end and adds them to a mapping; the first fault decides. -/
def readAttributes (size : Nat) (attributes : Attributes) (cs : List Char) :
    Except AttributeFault Attributes :=
  match _hs : skipSpace cs with
  | [] => .ok attributes
  | c :: rest =>
    match _hb : readBinding size (skipSpace (rest.dropWhile isKeyChar)) with
    | .error fault => .error fault
    | .ok (raw, rest') =>
      match bind attributes (String.ofList (c :: rest.takeWhile isKeyChar)) raw with
      | .error fault => .error fault
      | .ok attributes => readAttributes size attributes rest'
termination_by cs.length
decreasing_by
  have h₁ := length_dropWhile_le (p := Char.isWhitespace) cs
  rw [← skipSpace, _hs] at h₁
  have h₂ := length_le_of_readBinding _hb
  have h₃ := length_dropWhile_le (p := Char.isWhitespace) (rest.dropWhile isKeyChar)
  have h₄ := length_dropWhile_le (p := isKeyChar) rest
  rw [← skipSpace] at h₃
  simp only [List.length_cons] at h₁
  omega

/-- The attributes of a tag. -/
def attributes (content : List Char) : Except AttributeFault Attributes :=
  readAttributes (byteLength content) ∅ (attributePart content)

end Tag

end MarkupTemplates.Markup
