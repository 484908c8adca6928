import MarkupTemplates.Text.Span

/-!
# Slices of a text

A span cuts a slice out of a text if it begins and ends with characters of the text (`Cuts`); it
marks something there if the slice is not empty (`Marks`).
-/

namespace MarkupTemplates.Text

/-- The span cuts the slice out of the text. -/
def Cuts (text : List Char) (s : Span) (slice : List Char) : Prop :=
  ∃ before after, text = before ++ slice ++ after ∧ s.start = byteLength before ∧
    s.stop = byteLength before + byteLength slice

/-- The span cuts something out of the text. -/
def Marks (text : List Char) (s : Span) : Prop := ∃ slice, slice ≠ [] ∧ Cuts text s slice

variable {text slice : List Char} {s : Span}

theorem Cuts.stop_le (h : Cuts text s slice) : s.stop ≤ byteLength text := by
  obtain ⟨before, after, rfl, -, hstop⟩ := h
  rw [hstop, byteLength_append, byteLength_append]
  exact Nat.le_add_right _ _

/-- What is marked is not empty. -/
theorem Marks.lt (h : Marks text s) : s.start < s.stop := by
  obtain ⟨slice, hne, before, after, -, hstart, hstop⟩ := h
  have := byteLength_pos hne
  omega

theorem Marks.stop_le (h : Marks text s) : s.stop ≤ byteLength text := by
  obtain ⟨slice, -, hcuts⟩ := h
  exact hcuts.stop_le

/-- What is marked in a part of a text is marked in the text. -/
theorem Marks.shift {before : List Char} (h : Marks text s) :
    Marks (before ++ text) ⟨byteLength before + s.start, byteLength before + s.stop⟩ := by
  obtain ⟨slice, hne, first, rest, rfl, hstart, hstop⟩ := h
  refine ⟨slice, hne, before ++ first, rest, by simp only [List.append_assoc], ?_, ?_⟩
  · rw [hstart, byteLength_append]
  · rw [hstop, byteLength_append, Nat.add_assoc]

/-- What is marked in a text is marked in a longer one. -/
theorem Marks.append (h : Marks text s) (rest : List Char) : Marks (text ++ rest) s := by
  obtain ⟨slice, hne, before, after, rfl, hspan⟩ := h
  exact ⟨slice, hne, before, after ++ rest, by simp only [List.append_assoc], hspan⟩

/-- A character of one byte is marked by that byte. -/
theorem marks_byteAt {before : List Char} {c : Char} (hc : c.utf8Size = 1) (after : List Char) :
    Marks (before ++ c :: after) (.byteAt (byteLength before)) :=
  ⟨[c], List.cons_ne_nil c [], before, after, by simp, rfl, by simp [Span.byteAt, hc]⟩

end MarkupTemplates.Text
