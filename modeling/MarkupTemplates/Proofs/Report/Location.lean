import MarkupTemplates.Proofs.Template.Places
import MarkupTemplates.Report.Basic

/-!
# The location in a report

A report says in its head at which line and column the place begins that it speaks of.  It takes the
numbers of a span as positions counted in characters, while the spans of a faulty source count
bytes.  So the head is right just where the two agree (`heads_report_iff`): behind characters of one
byte only, as long as the place does not seem to end behind the end of the text.
-/

namespace MarkupTemplates

open Text (Span byteLength locate locateFrom splitLines)

/-! ### Lines and columns -/

namespace Text

/-- The character at a position is that of a line and a column, both counted from one. -/
def StandsAt (lines : List (List Char)) (position line column : Nat) : Prop :=
  ∃ before l after, lines = before ++ l :: after ∧ line = before.length + 1 ∧
    position + 1 = before.flatten.length + column ∧ 0 < column ∧ column ≤ l.length

variable {lines : List (List Char)} {position line column : Nat}

/-- Each character has a line and a column. -/
theorem exists_standsAt (h : position < lines.flatten.length) :
    ∃ line column, StandsAt lines position line column := by
  induction lines generalizing position with
  | nil => cases h
  | cons l lines ih =>
      by_cases hl : position < l.length
      · exact ⟨1, position + 1, [], l, lines, rfl, rfl, by simp, Nat.succ_pos _, hl⟩
      · have hrest : position - l.length < lines.flatten.length := by
          rw [List.flatten_cons, List.length_append] at h; omega
        obtain ⟨_, column, before, l', after, rfl, rfl, hposition, hcolumn⟩ := ih hrest
        refine ⟨_, column, l :: before, l', after, rfl, rfl, ?_, hcolumn⟩
        rw [List.flatten_cons, List.length_append]; omega

/-- Where a character stands, it is found. -/
theorem locateFrom_of_standsAt (h : StandsAt lines position line column) (i : Nat) :
    locateFrom i lines position = some (i + line - 1, column - 1) := by
  obtain ⟨before, l, after, rfl, rfl, hposition, hpos, hcolumn⟩ := h
  induction before generalizing i position with
  | nil =>
      have hlt : position < l.length := by simp at hposition; omega
      have hcol : column - 1 = position := by simp at hposition; omega
      cases after with
      | nil => simp [locateFrom, hcol, Nat.le_of_lt hlt]
      | cons l' after => simp [locateFrom, hcol, hlt]
  | cons first before ih =>
      have hle : ¬ position < first.length := by
        rw [List.flatten_cons, List.length_append] at hposition; omega
      have hrest : position - first.length + 1 = before.flatten.length + column := by
        rw [List.flatten_cons, List.length_append] at hposition; omega
      have hlocate := ih (i + 1) hrest
      obtain ⟨second, more, hmore⟩ : ∃ second more, before ++ l :: after = second :: more := by
        cases before with
        | nil => exact ⟨l, after, rfl⟩
        | cons second before => exact ⟨second, before ++ l :: after, rfl⟩
      rw [List.cons_append, hmore, locateFrom, if_neg hle, ← hmore, hlocate]
      · simp; omega
      · exact nofun

/-- The lines from `i` on say how many characters come before a place. -/
theorem position_of_locateFrom {i j k : Nat} (h : locateFrom i lines position = some (j, k)) :
    ∃ before after, lines = before ++ after ∧ j = i + before.length ∧
      position = before.flatten.length + k := by
  fun_induction locateFrom i lines position with
  | case1 => cases h
  | case2 i line position hle => cases h; exact ⟨[], [line], rfl, rfl, by simp⟩
  | case3 => cases h
  | case4 i line lines position hne hlt => cases h; exact ⟨[], line :: lines, rfl, rfl, by simp⟩
  | case5 i line lines position hne hle ih =>
      obtain ⟨before, after, rfl, hj, hposition⟩ := ih h
      refine ⟨line :: before, after, rfl, by simp; omega, ?_⟩
      rw [List.flatten_cons, List.length_append]; omega

/-- Only one position is found at a line and a column. -/
theorem locate_inj {p q : Nat} {place : Nat × Nat} (hp : locate lines p = some place)
    (hq : locate lines q = some place) : p = q := by
  obtain ⟨before, after, hlines, hi, rfl⟩ := position_of_locateFrom hp
  obtain ⟨before', after', hlines', hi', rfl⟩ := position_of_locateFrom hq
  have hlength : before.length = before'.length := by omega
  rw [(List.append_inj (hlines.symm.trans hlines') hlength).1]

/-- All positions in a text that is not empty are found, its end as well. -/
theorem locateFrom_isSome_iff {i : Nat} :
    (locateFrom i lines position).isSome = true ↔ lines ≠ [] ∧ position ≤ lines.flatten.length := by
  fun_induction locateFrom i lines position with
  | case1 => simp
  | case2 i line position hle => simpa
  | case3 i line position hgt => simpa using hgt
  | case4 i line lines position hne hlt => simp; omega
  | case5 i line lines position hne hle ih =>
      rw [ih]
      have hlines : lines ≠ [] := hne
      simp only [ne_eq, hlines, not_false_eq_true, true_and, reduceCtorEq, List.flatten_cons,
        List.length_append]
      omega

theorem length_le_byteLength (cs : List Char) : cs.length ≤ byteLength cs := by
  induction cs with
  | nil => exact Nat.le_refl _
  | cons c cs ih =>
      have := c.utf8Size_pos
      rw [List.length_cons, byteLength_cons]; omega

/-- A text has as many bytes as characters just if each character has one. -/
theorem byteLength_eq_length_iff {cs : List Char} :
    byteLength cs = cs.length ↔ ∀ c ∈ cs, c.utf8Size = 1 := by
  induction cs with
  | nil => simp
  | cons c cs ih =>
      have hc := c.utf8Size_pos
      have hcs := length_le_byteLength cs
      rw [List.forall_mem_cons, ← ih, byteLength_cons, List.length_cons]
      omega

end Text

/-! ### The head of a report -/

namespace Report

/-- The report of a message has a location in its head: a name, a line and a column. -/
def Heads (report message name : String) (line column : Nat) : Prop :=
  ∃ width rest, report = "Error: " ++ message ++ "\n" ++ String.ofList (blanks width) ++ "╭─[" ++
    name ++ ":" ++ toString line ++ ":" ++ toString column ++ "]\n" ++ rest

/-- Texts that go on with the same character are the same if they are without it. -/
theorem append_cons_inj {α : Type} {a : α} {xs ys as bs : List α} (hxs : a ∉ xs) (hys : a ∉ ys)
    (h : xs ++ a :: as = ys ++ a :: bs) : xs = ys ∧ as = bs := by
  induction xs generalizing ys with
  | nil =>
      cases ys with
      | nil => exact ⟨rfl, List.tail_eq_of_cons_eq h⟩
      | cons y ys => exact absurd (List.head_eq_of_cons_eq h ▸ List.mem_cons_self) hys
  | cons x xs ih =>
      cases ys with
      | nil => exact absurd (List.head_eq_of_cons_eq h ▸ List.mem_cons_self) hxs
      | cons y ys =>
          obtain ⟨rfl, htail⟩ := List.cons.inj h
          obtain ⟨rfl, hrest⟩ := ih (fun hmem => hxs (List.mem_cons_of_mem _ hmem))
            (fun hmem => hys (List.mem_cons_of_mem _ hmem)) htail
          exact ⟨rfl, hrest⟩

theorem not_mem_toString {c : Char} (hc : c.isDigit = false) (n : Nat) :
    c ∉ (toString n).toList := by
  rw [Nat.toString_eq_repr, Nat.toList_repr]
  intro hmem
  rw [Nat.isDigit_of_mem_toDigits (by decide) (by decide) hmem] at hc
  cases hc

/-- A number is read back from its digits. -/
theorem toString_inj {m n : Nat} (h : (toString m).toList = (toString n).toList) : m = n := by
  rw [Nat.toString_eq_repr, Nat.toString_eq_repr, Nat.toList_repr, Nat.toList_repr] at h
  rw [← Nat.ofDigitChars_ten_toDigits (n := m), h, Nat.ofDigitChars_ten_toDigits]

/-- What comes behind the message of a report with a location. -/
theorem Heads.toList_eq {report message name : String} {line column : Nat}
    (h : Heads report message name line column) :
    ∃ width rest, report.toList = ("Error: " ++ message ++ "\n").toList ++
      (blanks width ++ '╭' :: '─' :: '[' :: (name.toList ++ ':' :: ((toString line).toList ++
        ':' :: ((toString column).toList ++ ']' :: rest)))) := by
  obtain ⟨width, rest, rfl⟩ := h
  refine ⟨width, '\n' :: rest.toList, ?_⟩
  simp only [String.toList_append, String.toList_ofList, List.append_assoc]
  rfl

/-- A report has one location. -/
theorem Heads.inj {report message name : String} {line column line' column' : Nat}
    (h : Heads report message name line column) (h' : Heads report message name line' column') :
    line = line' ∧ column = column' := by
  obtain ⟨width, rest, hreport⟩ := h.toList_eq
  obtain ⟨width', rest', hreport'⟩ := h'.toList_eq
  have hbehind := List.append_cancel_left (hreport.symm.trans hreport')
  have hblank (n : Nat) : '╭' ∉ blanks n := fun hmem => by
    cases List.eq_of_mem_replicate hmem
  obtain ⟨-, hplace⟩ := append_cons_inj (hblank width) (hblank width') hbehind
  have hlocation := List.append_cancel_left (List.cons.inj (List.cons.inj hplace).2).2
  obtain ⟨hline, hrest⟩ := append_cons_inj (not_mem_toString (by decide) line)
    (not_mem_toString (by decide) line') (List.cons.inj hlocation).2
  obtain ⟨hcolumn, -⟩ := append_cons_inj (not_mem_toString (by decide) column)
    (not_mem_toString (by decide) column') hrest
  exact ⟨toString_inj hline, toString_inj hcolumn⟩

/-- A report without rows has no location. -/
theorem not_heads_of_rows?_eq_none {name source message : String} {span : Span} {line column : Nat}
    (h : rows? (splitLines source.toList) span message.toList = none) :
    ¬ Heads (write name source span message) message name line column := by
  intro hheads
  obtain ⟨width, rest, hreport⟩ := hheads.toList_eq
  simp only [write, h] at hreport
  have := congrArg List.length hreport
  simp at this

/-- A report that is written with rows is headed by its message and the place of its mark. -/
theorem heads_write {name source message : String} {span : Span} {line column width : Nat}
    {rows : List (List Char)}
    (h : rows? (splitLines source.toList) span message.toList = some ((line, column), width, rows)) :
    Heads (write name source span message) message name line column := by
  simp only [write, h]
  refine ⟨width + 2, String.ofList (blanks (width + 2)) ++ "│\n" ++
    String.join (rows.map fun r => String.ofList r ++ "\n") ++
      (String.ofList (List.replicate (width + 2) '─') ++ "╯\n"), ?_⟩
  simp only [String.append_assoc]

/-- The head names the place that is found for the beginning, if one is found for the end. -/
theorem heads_write_iff {name source message : String} {span : Span} {line column : Nat} :
    Heads (write name source span message) message name (line + 1) (column + 1) ↔
      locate (splitLines source.toList) span.start = some (line, column) ∧
        (locate (splitLines source.toList) (max span.start (span.stop - 1))).isSome = true := by
  cases hstart : locate (splitLines source.toList) span.start with
  | none =>
      have hnone : rows? (splitLines source.toList) span message.toList = none := by
        rw [rows?, hstart]; rfl
      exact ⟨fun h => absurd h (not_heads_of_rows?_eq_none hnone), nofun⟩
  | some first =>
      cases hstop : locate (splitLines source.toList) (max span.start (span.stop - 1)) with
      | none =>
          have hnone : rows? (splitLines source.toList) span message.toList = none := by
            rw [rows?, hstart, hstop]; rfl
          exact ⟨fun h => absurd h (not_heads_of_rows?_eq_none hnone), fun h => nomatch h.2⟩
      | some last =>
          obtain ⟨i, k⟩ := first
          obtain ⟨j, m⟩ := last
          have hheads : Heads (write name source span message) message name (i + 1) (k + 1) := by
            apply heads_write
            rw [rows?, hstart, hstop]
            rfl
          constructor
          · intro h
            obtain ⟨hline, hcolumn⟩ := h.inj hheads
            exact ⟨by rw [Nat.succ.inj hline, Nat.succ.inj hcolumn], rfl⟩
          · rintro ⟨hplace, -⟩
            cases hplace
            exact hheads

/-- **The head of a report.**  Of a character that is marked in bytes, the head of the report names
the line and column just if all characters before it have one byte and the place does not seem to
end behind the text. -/
theorem heads_write_iff_of_standsAt {name source message : String} {span : Span}
    {before after : List Char} {c : Char} {line column : Nat}
    (hsource : source.toList = before ++ c :: after) (hstart : byteLength before = span.start)
    (hplace : Text.StandsAt (splitLines source.toList) before.length line column) :
    Heads (write name source span message) message name line column ↔
      (∀ c ∈ before, c.utf8Size = 1) ∧ span.stop ≤ source.toList.length + 1 := by
  obtain ⟨line, rfl⟩ : ∃ k, line = k + 1 := by
    obtain ⟨_, _, _, _, rfl, _⟩ := hplace; exact ⟨_, rfl⟩
  obtain ⟨column, rfl⟩ : ∃ k, column = k + 1 := by
    obtain ⟨_, _, _, _, _, _, hpos, _⟩ := hplace; exact ⟨column - 1, by omega⟩
  have hfound : locate (splitLines source.toList) before.length = some (line, column) := by
    rw [locate, Text.locateFrom_of_standsAt hplace 0]
    simp
  have hlines : splitLines source.toList ≠ [] := by
    obtain ⟨_, _, _, hlines, _⟩ := hplace; simp [hlines]
  have hlength : before.length < source.toList.length := by
    rw [hsource, List.length_append, List.length_cons]; omega
  rw [heads_write_iff, ← Text.byteLength_eq_length_iff, hstart, locate, locate,
    Text.locateFrom_isSome_iff, Text.flatten_splitLines]
  constructor
  · rintro ⟨hsame, -, hle⟩
    exact ⟨Text.locate_inj hsame hfound, by omega⟩
  · rintro ⟨hsame, hle⟩
    exact ⟨hsame ▸ hfound, hlines, by omega⟩

end Report

/-- **Where reports point.**  An error that a source is refused for marks a character of the source.
The head of its report names the line and the column of that character just if all characters
before it have one byte and the marked bytes do not seem, as characters, to end behind the
source. -/
theorem heads_report_iff {minify : Bool} {name source : String} {es : List SourceError}
    (h : readTemplates minify name source = .error es) (file : String) :
    ∀ e ∈ es,
      (Markup.dropMark source.toList = source.toList →
        ∃ before c after, source.toList = before ++ c :: after ∧
          byteLength before = e.span.start) ∧
      ∀ before c after, source.toList = before ++ c :: after → byteLength before = e.span.start →
        (∃ line column, Text.StandsAt (splitLines source.toList) before.length line column) ∧
        ∀ line column, Text.StandsAt (splitLines source.toList) before.length line column →
          (Report.Heads (e.report file source) e.message file line column ↔
            (∀ c ∈ before, c.utf8Size = 1) ∧ e.span.stop ≤ source.toList.length + 1) := by
  intro e he
  refine ⟨fun hmark => ?_, fun before c after hsource hstart => ⟨?_, fun line column hplace => ?_⟩⟩
  · obtain ⟨slice, hne, before, after, htext, hstart, -⟩ := marks_of_readTemplates h e he
    obtain ⟨c, slice, rfl⟩ := List.exists_cons_of_ne_nil hne
    exact ⟨before, c, slice ++ after, by rw [← hmark, htext]; simp, hstart.symm⟩
  · refine Text.exists_standsAt ?_
    rw [Text.flatten_splitLines, hsource, List.length_append, List.length_cons]; omega
  · exact Report.heads_write_iff_of_standsAt hsource hstart hplace

/-- A character of two bytes behind the error leaves the location as it is. -/
theorem heads_report_iff_second_line :
    let source := "<template id=\"a\">\n  <p></q>é</template>"
    ∃ e, readTemplates true "bad.xml" source = .error [e] ∧ e.span = ⟨23, 27⟩ ∧
      Report.Heads (e.report "bad.xml" source) e.message "bad.xml" 2 6 := by
  intro source
  let before := "<template id=\"a\">\n  <p>".toList
  have hread : Markup.readTree true source.toList =
      .error ⟨⟨23, 27⟩, .mismatch "p" "q"⟩ := by simp only [source]; cbv
  have herror : readTemplates true "bad.xml" source =
      .error [.markup ⟨23, 27⟩ (Markup.NestingFault.mismatch "p" "q").message] := by
    rw [readTemplates, hread]; rfl
  have hsource : source.toList = before ++ '<' :: "/q>é</template>".toList := by decide +kernel
  have hplace : Text.StandsAt (splitLines source.toList) before.length 2 6 :=
    ⟨["<template id=\"a\">\n".toList], "  <p></q>é</template>".toList, [], by decide +kernel,
      rfl, by decide +kernel, by decide, by decide +kernel⟩
  obtain ⟨-, hpoint⟩ := heads_report_iff herror "bad.xml" _ List.mem_cons_self
  obtain ⟨-, hheads⟩ := hpoint before '<' _ hsource (by decide +kernel)
  have honly : byteLength before = before.length := by decide +kernel
  have hstop : 27 ≤ source.toList.length + 1 := by decide +kernel
  exact ⟨_, herror, rfl,
    (hheads 2 6 hplace).mpr ⟨Text.byteLength_eq_length_iff.mp honly, hstop⟩⟩

/-- **A character of two bytes before the error moves the location.**  The closing tag that is
refused is at column 21, and the report says column 22. -/
theorem heads_report_misplaced :
    let source := "<template id=\"é\"><p></q></template>"
    ∃ e before after, readTemplates true "bad.xml" source = .error [e] ∧
      source.toList = before ++ '<' :: after ∧ byteLength before = e.span.start ∧
      Text.StandsAt (splitLines source.toList) before.length 1 21 ∧
      ¬ Report.Heads (e.report "bad.xml" source) e.message "bad.xml" 1 21 ∧
      Report.Heads (e.report "bad.xml" source) e.message "bad.xml" 1 22 := by
  intro source
  let e : SourceError := .markup ⟨21, 25⟩ (Markup.NestingFault.mismatch "p" "q").message
  let before := "<template id=\"é\"><p>".toList
  have hread : Markup.readTree true source.toList =
      .error ⟨⟨21, 25⟩, .mismatch "p" "q"⟩ := by simp only [source]; cbv
  have herror : readTemplates true "bad.xml" source = .error [e] := by
    rw [readTemplates, hread]; rfl
  have hsource : source.toList = before ++ '<' :: "/q></template>".toList := by decide +kernel
  have hstart : byteLength before = e.span.start := by decide +kernel
  have hplace : Text.StandsAt (splitLines source.toList) before.length 1 21 :=
    ⟨[], source.toList, [], by decide +kernel, rfl, by decide +kernel, by decide, by decide +kernel⟩
  have hheads : Report.Heads (e.report "bad.xml" source) e.message "bad.xml" (0 + 1) (21 + 1) :=
    Report.heads_write_iff.mpr ⟨by decide +kernel, by decide +kernel⟩
  refine ⟨e, before, _, herror, hsource, hstart, hplace, fun h => ?_, hheads⟩
  have honly := ((Report.heads_write_iff_of_standsAt hsource hstart hplace).mp h).1 'é'
  exact absurd (honly (by decide +kernel)) (by decide)

end MarkupTemplates
