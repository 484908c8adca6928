import MarkupTemplates.Markup.Entity.Names
import MarkupTemplates.Text.Span

/-!
# Character references

In a text or attribute value `&name;`, `&#123;` and `&#xAB;` stand for characters.  `decode` puts
the characters in their place.  The five names of XML come first, then the names of HTML.  Faults
give the place of the reference within the text, in bytes.

A text without `&` stands for itself (`decode_of_not_mem`).
-/

namespace MarkupTemplates.Markup.Entity

open Text (byteLength hexDigit?)

/-- Why the digits of a character reference are no character. -/
inductive NumberFault where
  /-- A sign stands before the digits. -/
  | signed
  /-- There are no digits. -/
  | empty
  /-- A character is no digit of the base. -/
  | notDigit
  /-- The number has more than 32 bits. -/
  | tooLarge
  /-- The number is zero. -/
  | zero
  /-- The number is no Unicode scalar value. -/
  | notCharacter (n : Nat)
deriving DecidableEq, Repr

/-- Why a text cannot be decoded. -/
inductive Fault where
  /-- The ampersand at `start` is not followed by `;`; the text is `stop` bytes long. -/
  | unterminated (start stop : Nat)
  /-- The name between `start` and `stop` is unknown. -/
  | unknownName (start stop : Nat) (name : String)
  /-- A numeric reference is no character. -/
  | number (fault : NumberFault)
deriving DecidableEq, Repr

/-- A fault of a numeric reference in words. -/
def NumberFault.message : NumberFault → String
  | .signed => "unexpected number sign"
  | .empty => "cannot parse integer from empty string"
  | .notDigit => "invalid digit found in string"
  | .tooLarge => "number too large to fit in target type"
  | .zero => "0x0 character is not permitted in XML"
  | .notCharacter n => "`" ++ toString n ++ "` is not a valid codepoint"

/-- A fault in words. -/
def Fault.message : Fault → String
  | .unterminated start stop =>
    "Error while escaping character at range " ++ (⟨start, stop⟩ : Text.Span).text ++
      ": Cannot find ';' after '&'"
  | .unknownName start stop name =>
    "at " ++ (⟨start, stop⟩ : Text.Span).text ++ ": unrecognized entity `" ++ name ++ "`"
  | .number fault => "invalid character reference: " ++ fault.message

/-! ### Numeric references -/

/-- The value of digits in a base, with 32 bits at most; the first character that fails decides. -/
def digits (base : Nat) (value : Nat) : List Char → Except NumberFault Nat
  | [] => .ok value
  | c :: cs =>
    match (hexDigit? c).filter (· < base) with
    | none => .error .notDigit
    | some d =>
      if UInt32.size ≤ base * value + d then .error .tooLarge
      else digits base (base * value + d) cs

/-- The number written by the digits of a reference. -/
def number (base : Nat) (cs : List Char) : Except NumberFault Nat :=
  match cs with
  | [] => .error .empty
  | c :: _ => if c = '+' ∨ c = '-' then .error .signed else digits base 0 cs

/-- The character with a number. -/
def ofNumber (n : Nat) : Except NumberFault Char :=
  if n = 0 then .error .zero
  else if n.isValidChar then .ok (Char.ofNat n)
  else .error (.notCharacter n)

/-- The character of a numeric reference, given what stands after `#`. -/
def numeric (cs : List Char) : Except NumberFault Char :=
  match cs with
  | 'x' :: hex => number 16 hex >>= ofNumber
  | _ => number 10 cs >>= ofNumber

/-! ### Named references -/

/-- The names of XML. -/
def basic? (name : List Char) : Option Char :=
  if name = "lt".toList then some '<'
  else if name = "gt".toList then some '>'
  else if name = "amp".toList then some '&'
  else if name = "apos".toList then some '\''
  else if name = "quot".toList then some '"'
  else none

/-- The code point that a name of the table with code `n` denotes: between U+0100 and U+045F and
from U+1D400 on, the one without the last hexadecimal digit. -/
def denoted (n : Nat) : Nat :=
  if (0x100 ≤ n ∧ n ≤ 0x45F) ∨ 0x1D3FF < n then n / 16 else n

/-- The character a name stands for. -/
def named? (name : List Char) : Option Char :=
  match basic? name with
  | some c => some c
  | none => (table.lookup name).map fun n => Char.ofNat (denoted n)

/-! ### Texts -/

/-- The character of the reference whose name starts at byte `offset`. -/
def reference (offset : Nat) (name : List Char) : Except Fault Char :=
  match name with
  | '#' :: cs => (numeric cs).mapError .number
  | _ =>
    match named? name with
    | some c => .ok c
    | none => .error (.unknownName offset (offset + byteLength name) (String.ofList name))

/-- Whether a character can be part of the name of a reference. -/
def isInner (c : Char) : Bool := c != '&' && c != ';'

/-- Decodes the part of a text that begins at byte `offset`; the text is `size` bytes long. -/
def decodeFrom (size offset : Nat) : List Char → Except Fault (List Char)
  | [] => .ok []
  | c :: cs =>
    if c = '&' then
      match h : cs.dropWhile isInner with
      | ';' :: rest => do
        let name := cs.takeWhile isInner
        let d ← reference (offset + 1) name
        let ds ← decodeFrom size (offset + 1 + byteLength name + 1) rest
        return d :: ds
      | _ => .error (.unterminated offset size)
    else do
      let ds ← decodeFrom size (offset + c.utf8Size) cs
      return c :: ds
termination_by cs => cs.length
decreasing_by
  · have hle := (List.dropWhile_sublist (l := cs) isInner).length_le
    rw [h] at hle
    simp only [List.length_cons] at hle ⊢; omega
  · simp

/-- The text that a text with references stands for. -/
def decode (cs : List Char) : Except Fault (List Char) := decodeFrom (byteLength cs) 0 cs

theorem decodeFrom_of_not_mem {size offset : Nat} {cs : List Char} (h : '&' ∉ cs) :
    decodeFrom size offset cs = .ok cs := by
  induction cs generalizing offset with
  | nil => simp [decodeFrom]
  | cons c cs ih =>
    simp only [List.mem_cons, not_or] at h
    rw [decodeFrom, if_neg (Ne.symm h.1), ih h.2]
    rfl

theorem decode_of_not_mem {cs : List Char} (h : '&' ∉ cs) : decode cs = .ok cs :=
  decodeFrom_of_not_mem h

end MarkupTemplates.Markup.Entity
