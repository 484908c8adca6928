/-!
# Places in a text

Places in a text are counted in the bytes of its UTF-8 form.  A `Span` is a half-open range of
them, written `start..stop`.
-/

namespace MarkupTemplates.Text

/-- The number of bytes a text takes in UTF-8. -/
def byteLength : List Char → Nat
  | [] => 0
  | c :: cs => c.utf8Size + byteLength cs

@[simp] theorem byteLength_nil : byteLength [] = 0 := rfl

@[simp] theorem byteLength_cons {c : Char} {cs : List Char} :
    byteLength (c :: cs) = c.utf8Size + byteLength cs := rfl

@[simp] theorem byteLength_append {cs ds : List Char} :
    byteLength (cs ++ ds) = byteLength cs + byteLength ds := by
  induction cs with
  | nil => simp
  | cons c cs ih => simp [ih, Nat.add_assoc]

theorem byteLength_pos {cs : List Char} (h : cs ≠ []) : 0 < byteLength cs := by
  cases cs with
  | nil => contradiction
  | cons c cs => have := c.utf8Size_pos; simp; omega

/-- A half-open range of byte offsets. -/
structure Span where
  /-- The offset of the first byte. -/
  start : Nat
  /-- The offset just past the last byte. -/
  stop : Nat
deriving DecidableEq, Repr, Inhabited

namespace Span

/-- A span as it is written in messages. -/
def text (s : Span) : String := toString s.start ++ ".." ++ toString s.stop

/-- The span of the one byte at an offset. -/
def byteAt (offset : Nat) : Span := ⟨offset, offset + 1⟩

end Span

end MarkupTemplates.Text
