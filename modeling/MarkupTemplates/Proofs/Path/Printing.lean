import MarkupTemplates.Proofs.Path.Grammar

/-!
# Writing paths

A step is written with its separator, its tag test and its predicates.  Of the symbols of such steps
none runs together with the next, whatever blanks stand between them or not
(`isChain_flatMap_symbols`), so that they are read back.

* `read_written`: steps that are written are read as the same steps, and the text that is kept of a
  path is read as the same path again.
-/

namespace MarkupTemplates.Path

open Markup (isName)

variable {a b symbol : Symbol} {symbols : List Symbol}

/-! ### What can be written -/

/-- The names of the predicate are names, and its value does not have quotes of both kinds. -/
def Predicate.Writable : Predicate → Prop
  | .present name => isName name = true
  | .equal name value => isName name = true ∧ ¬ ('"' ∈ value.toList ∧ '\'' ∈ value.toList)

/-- The tag of a step is a name, and so are the attributes of its predicates; no value has quotes of
both kinds. -/
structure Step.Writable (step : Step) : Prop where
  /-- The tag is a name. -/
  test : ∀ name, step.test = .named name → isName name = true
  /-- The predicates can be written. -/
  predicates : ∀ p ∈ step.predicates, p.Writable

/-- Every symbol of a writable predicate can be written. -/
theorem Predicate.Writable.exists_writtenAs {p : Predicate} (h : p.Writable) :
    ∀ a ∈ p.symbols, ∃ text, a.WrittenAs text := by
  cases p with
  | present name =>
      simp only [symbols, List.forall_mem_cons]
      exact ⟨⟨_, .openBracket⟩, ⟨_, .at⟩, ⟨_, .name h⟩, ⟨_, .closeBracket⟩, List.forall_mem_nil _⟩
  | equal name value =>
      obtain ⟨hname, hquotes⟩ := h
      have hvalue : ∃ text, (Symbol.string value).WrittenAs text := by
        by_cases hdouble : '"' ∈ value.toList
        · exact ⟨_, .string (.inr rfl) fun hsingle => hquotes ⟨hdouble, hsingle⟩⟩
        · exact ⟨_, .string (.inl rfl) hdouble⟩
      simp only [symbols, List.forall_mem_cons]
      exact ⟨⟨_, .openBracket⟩, ⟨_, .at⟩, ⟨_, .name hname⟩, ⟨_, .equals⟩, hvalue,
        ⟨_, .closeBracket⟩, List.forall_mem_nil _⟩

/-- Every symbol of a writable step can be written. -/
theorem Step.Writable.exists_writtenAs {step : Step} (h : step.Writable) :
    ∀ a ∈ step.symbols, ∃ text, a.WrittenAs text := by
  obtain ⟨axis, test, predicates⟩ := step
  rw [symbols, body, List.forall_mem_cons, List.forall_mem_cons]
  refine ⟨?_, ?_, fun a ha => ?_⟩
  · cases axis with
    | child => exact ⟨_, .slash⟩
    | descendant => exact ⟨_, .doubleSlash⟩
  · cases test with
    | any => exact ⟨_, .star⟩
    | named name => exact ⟨_, .name (h.test name rfl)⟩
  · obtain ⟨p, hp, ha⟩ := List.mem_flatMap.mp ha
    exact (h.predicates p hp).exists_writtenAs a ha

/-- Symbols that can be written one by one can be written one after the other. -/
theorem exists_spaced (h : ∀ a ∈ symbols, ∃ text, a.WrittenAs text) :
    ∃ s : String, Spaced symbols s.toList := by
  suffices h : ∃ text, Spaced symbols text by
    obtain ⟨text, hspaced⟩ := h
    exact ⟨String.ofList text, by rwa [String.toList_ofList]⟩
  induction symbols with
  | nil => exact ⟨[], .nil [] nofun⟩
  | cons a symbols ih =>
      obtain ⟨⟨token, htoken⟩, hrest⟩ := List.forall_mem_cons.mp h
      obtain ⟨text, htext⟩ := ih hrest
      exact ⟨[] ++ (token ++ text), .cons [] nofun htoken htext⟩

/-! ### No two symbols of a step run together -/

/-- A symbol that nothing continues joins no other. -/
theorem not_joins_of_continues (h : ∀ c, a.continues c = false) : ¬ a.Joins b := by
  rintro ⟨c, tail, -, hc⟩
  rw [h c] at hc
  cases hc

theorem not_joins_name {name : String}
    (h : ∀ c tail, b.WrittenAs (c :: tail) → isNameChar c = false) :
    ¬ (Symbol.name name).Joins b := by
  rintro ⟨c, tail, hwritten, hc⟩
  rw [Symbol.continues, h c tail hwritten] at hc
  cases hc

theorem symbol_scan_slash (cs : List Char) :
    (scan '/' cs).symbol = .slash ∨ (scan '/' cs).symbol = .doubleSlash := by
  by_cases h : ∃ rest, cs = '/' :: rest
  · obtain ⟨rest, rfl⟩ := h
    exact .inr rfl
  · rw [scan_slash fun rest hrest => h ⟨rest, hrest⟩]
    exact .inl rfl

/-- A tag test does not run together with the separator before it. -/
theorem not_joins_symbol (axis : Axis) (test : TagTest) : ¬ axis.separator.Joins test.symbol := by
  cases axis with
  | descendant => exact not_joins_of_continues fun _ => rfl
  | child =>
      rintro ⟨c, tail, hwritten, hc⟩
      have hslash : c = '/' := by simpa [Axis.separator, Symbol.continues] using hc
      obtain ⟨d, rest, htext, -, -, hscan⟩ := hwritten.scan_eq
      cases htext
      have hsymbol := symbol_scan_slash tail
      rw [← hslash, hscan] at hsymbol
      cases test with
      | any => rcases hsymbol with h | h <;> cases h
      | named name => rcases hsymbol with h | h <;> cases h

/-- A symbol that may come after a tag test or a predicate. -/
inductive Symbol.Follows : Symbol → Prop where
  | openBracket : Follows .openBracket
  | separator (axis : Axis) : Follows axis.separator

theorem Symbol.Follows.isNameChar_eq_false (h : b.Follows) (c : Char) (tail : List Char)
    (hwritten : b.WrittenAs (c :: tail)) : isNameChar c = false := by
  cases h with
  | openBracket => cases hwritten; decide
  | separator axis => cases axis <;> cases hwritten <;> decide

/-- Nothing that may come after a tag test runs together with it. -/
theorem Symbol.Follows.not_joins (h : b.Follows) (test : TagTest) : ¬ test.symbol.Joins b := by
  cases test with
  | any => exact not_joins_of_continues fun _ => rfl
  | named name => exact not_joins_name h.isNameChar_eq_false

/-- No symbol runs together with the next. -/
def Apart (symbols : List Symbol) : Prop := symbols.IsChain fun a b => ¬ a.Joins b

/-- No symbol runs together with the next, and the first may come after a tag test or predicate. -/
def ApartBehind (symbols : List Symbol) : Prop :=
  Apart symbols ∧ ∀ b ∈ symbols.head?, b.Follows

theorem apart_cons (h : ∀ b ∈ symbols.head?, ¬ a.Joins b) (hrest : Apart symbols) :
    Apart (a :: symbols) := List.isChain_cons.mpr ⟨h, hrest⟩

/-- The symbols of a predicate do not run together, nor into those behind it. -/
theorem apartBehind_predicate (p : Predicate) (h : ApartBehind symbols) :
    ApartBehind (p.symbols ++ symbols) := by
  have hclose : Apart (.closeBracket :: symbols) :=
    apart_cons (fun _ _ => not_joins_of_continues fun _ => rfl) h.1
  have hloose : ∀ {a b : Symbol} {rest : List Symbol}, (∀ c, a.continues c = false) →
      Apart (b :: rest) → Apart (a :: b :: rest) := fun ha hrest =>
    apart_cons (fun _ _ => not_joins_of_continues ha) hrest
  have hname : ∀ {name : String} {b : Symbol} {rest : List Symbol},
      (∀ c tail, b.WrittenAs (c :: tail) → isNameChar c = false) → Apart (b :: rest) →
      Apart (.name name :: b :: rest) := fun hb hrest =>
    apart_cons (fun _ hmem => by cases hmem; exact not_joins_name hb) hrest
  cases p with
  | present name =>
      refine ⟨hloose (fun _ => rfl) (hloose (fun _ => rfl) (hname ?_ hclose)), ?_⟩
      · intro c tail hwritten; cases hwritten; decide
      · intro b hb; cases hb; exact .openBracket
  | equal name value =>
      refine ⟨hloose (fun _ => rfl) (hloose (fun _ => rfl) (hname ?_ (hloose (fun _ => rfl)
        (hloose (fun _ => rfl) hclose)))), ?_⟩
      · intro c tail hwritten; cases hwritten; decide
      · intro b hb; cases hb; exact .openBracket

/-- The symbols of a step do not run together, nor into those behind it. -/
theorem apartBehind_step (step : Step) (h : ApartBehind symbols) :
    ApartBehind (step.symbols ++ symbols) := by
  have hpredicates : ApartBehind (step.predicates.flatMap Predicate.symbols ++ symbols) := by
    induction step.predicates with
    | nil => exact h
    | cons p ps ih =>
        rw [List.flatMap_cons, List.append_assoc]
        exact apartBehind_predicate p ih
  have htest := apart_cons (fun b hb => (hpredicates.2 b hb).not_joins step.test) hpredicates.1
  refine ⟨apart_cons (fun b hb => ?_) htest, fun b hb => ?_⟩
  · cases hb; exact not_joins_symbol step.axis step.test
  · cases hb; exact .separator step.axis

/-- **Of the symbols of steps none runs together with the next.** -/
theorem apart_flatMap_symbols (steps : List Step) : Apart (steps.flatMap Step.symbols) := by
  suffices h : ApartBehind (steps.flatMap Step.symbols) from h.1
  induction steps with
  | nil => exact ⟨.nil, nofun⟩
  | cons step steps ih => exact apartBehind_step step ih

/-! ### Reading what is written -/

theorem Forms.flatMap_symbols {steps : List Step} (hne : steps ≠ []) :
    Forms (steps.flatMap Step.symbols) steps := by
  obtain ⟨first, rest, rfl⟩ := List.exists_cons_of_ne_nil hne
  exact Forms.intro (.separator first.axis)

theorem advance_unknown (reading : Reading) : reading.advance .unknown = none := by
  obtain ⟨steps, place⟩ := reading
  cases place <;> rfl

/-- All symbols of a path are known. -/
theorem Forms.unknown_not_mem {steps : List Step} (h : Forms symbols steps) :
    .unknown ∉ symbols := by
  intro hmem
  obtain ⟨before, after, rfl⟩ := List.append_of_mem hmem
  obtain ⟨last, hrun, -⟩ := h.foldlM_advance
  rw [List.foldlM_append] at hrun
  obtain ⟨reading, -, hrun⟩ := Option.bind_eq_some_iff.mp hrun
  rw [List.foldlM_cons, advance_unknown] at hrun
  cases hrun

/-- **Paths survive writing and reading.**  Steps with names for tags and attributes, and without
quotes of both kinds in a value, can be written, and however they are written, with whichever blanks
between the symbols, they are read again as they are.  The text that is kept of a path is read as
the same path. -/
theorem read_written :
    (∀ steps : List Step, steps ≠ [] → (∀ step ∈ steps, step.Writable) →
      (∃ s : String, Spaced (steps.flatMap Step.symbols) s.toList) ∧
      ∀ s : String, Spaced (steps.flatMap Step.symbols) s.toList →
        read s = .ok ⟨Text.trim s, steps⟩) ∧
    ∀ (s : String) (p : Path), read s = .ok p → read p.source = .ok p := by
  refine ⟨fun steps hne hwritable => ⟨?_, fun s hspaced => ?_⟩, fun s p h => ?_⟩
  · refine exists_spaced fun a ha => ?_
    obtain ⟨step, hstep, ha⟩ := List.mem_flatMap.mp ha
    exact (hwritable step hstep).exists_writtenAs a ha
  · have hsymbols := symbolsOf_of_spaced hspaced (apart_flatMap_symbols steps)
    rw [read_eq_ok_iff, hsymbols]
    exact ⟨.flatMap_symbols hne, rfl⟩
  · obtain ⟨hforms, hsource⟩ := read_eq_ok_iff.mp h
    rw [read_eq_ok_iff, hsource, Text.trim_trim, Text.trim, String.toList_ofList,
      symbolsOf_trimList hforms.unknown_not_mem]
    exact ⟨hforms, rfl⟩

/-- A value with a quote, a bracket and a slash, with blanks between symbols and around them. -/
theorem read_written_blanks :
    let steps : List Step :=
      [⟨.descendant, .named "a", [.equal "b-c" "\"]/"]⟩, ⟨.child, .any, [.present "d:e"]⟩]
    ∃ s : String, s = "\n// a[@b-c\t= '\"]/']/*\r[ @d:e] " ∧ (∀ step ∈ steps, step.Writable) ∧
      Spaced (steps.flatMap Step.symbols) s.toList ∧ read s = .ok ⟨Text.trim s, steps⟩ ∧
      read (Text.trim s) = .ok ⟨Text.trim s, steps⟩ := by
  intro steps
  have hwritable : ∀ step ∈ steps, step.Writable := by
    refine List.forall_mem_cons.mpr ⟨⟨?_, ?_⟩, List.forall_mem_cons.mpr ⟨⟨nofun, ?_⟩, nofun⟩⟩
    · rintro name ⟨⟩; decide
    · exact List.forall_mem_singleton.mpr ⟨by decide, by decide⟩
    · exact List.forall_mem_singleton.mpr (show isName "d:e" = true by decide)
  have hgap {c : Char} (h : c.isWhitespace = true) : ∀ d ∈ [c], d.isWhitespace = true :=
    List.forall_mem_singleton.mpr h
  have hspaced : ∃ text, text = "\n// a[@b-c\t= '\"]/']/*\r[ @d:e] ".toList ∧
      Spaced (steps.flatMap Step.symbols) text := by
    refine ⟨_, ?_,
      .cons ['\n'] (hgap rfl) .doubleSlash <|
      .cons [' '] (hgap rfl) (.name (show isName "a" = true by decide)) <|
      .cons [] nofun .openBracket <|
      .cons [] nofun .at <|
      .cons [] nofun (.name (show isName "b-c" = true by decide)) <|
      .cons ['\t'] (hgap rfl) .equals <|
      .cons [' '] (hgap rfl) (.string (.inr rfl) (show '\'' ∉ "\"]/".toList by decide)) <|
      .cons [] nofun .closeBracket <|
      .cons [] nofun .slash <|
      .cons [] nofun .star <|
      .cons ['\r'] (hgap rfl) .openBracket <|
      .cons [' '] (hgap rfl) .at <|
      .cons [] nofun (.name (show isName "d:e" = true by decide)) <|
      .cons [] nofun .closeBracket <|
      .nil [' '] (hgap rfl)⟩
    cbv
  obtain ⟨text, rfl, hspaced⟩ := hspaced
  have hread := (read_written.1 steps (List.cons_ne_nil _ _) hwritable).2 _ hspaced
  have hagain := read_written.2 _ _ hread
  exact ⟨_, rfl, hwritable, hspaced, hread, hagain⟩

end MarkupTemplates.Path
