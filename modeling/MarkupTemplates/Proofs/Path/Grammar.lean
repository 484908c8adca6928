import MarkupTemplates.Path.Reading
import MarkupTemplates.Proofs.Path.Lexing

/-!
# The grammar of paths

`Forms` says which symbols form a path, and with which steps: an anchor, the body of the first step,
and every other step with its separator.  Symbols are *viable* if more symbols can make a path of
them.

* `read_cases`: a text is read exactly if its symbols form a path, and then the steps are those of
  the path.  Otherwise the fault is the first token whose symbol makes the symbols up to it no longer
  viable, or the end of the text if all of them are.

A reading holds the symbols that have been read (`Reads`), which one symbol more extends
(`Reads.advance`); symbols that form a path are read to the end (`Forms.foldlM_advance`).  Since
every reading can be completed (`Reads.viable`), a reading fails at the first symbol that is not
viable.
-/

namespace MarkupTemplates.Path

open Text (byteLength)

/-! ### The symbols of a path -/

/-- The separator before a step. -/
def Axis.separator : Axis → Symbol
  | .child => .slash
  | .descendant => .doubleSlash

/-- The symbol of a tag test. -/
def TagTest.symbol : TagTest → Symbol
  | .any => .star
  | .named name => .name name

/-- The symbols of a predicate. -/
def Predicate.symbols : Predicate → List Symbol
  | .present name => [.openBracket, .at, .name name, .closeBracket]
  | .equal name value => [.openBracket, .at, .name name, .equals, .string value, .closeBracket]

/-- The symbols of a step without its separator. -/
def Step.body (step : Step) : List Symbol :=
  step.test.symbol :: step.predicates.flatMap Predicate.symbols

/-- The symbols of a step with its separator. -/
def Step.symbols (step : Step) : List Symbol := step.axis.separator :: step.body

/-- The symbols may stand before the body of the first step, if it has this direction. -/
inductive Anchor : Axis → List Symbol → Prop where
  /-- Without a separator the step goes to the children. -/
  | none : Anchor .child []
  /-- The separator of the step. -/
  | separator (axis : Axis) : Anchor axis [axis.separator]
  /-- A dot and the separator of the step. -/
  | dotted (axis : Axis) : Anchor axis [.dot, axis.separator]

/-- The symbols form a path with the steps. -/
inductive Forms : List Symbol → List Step → Prop where
  /-- An anchor, the body of the first step, and the other steps. -/
  | intro {anchor : List Symbol} {first : Step} {rest : List Step} (h : Anchor first.axis anchor) :
      Forms (anchor ++ first.body ++ rest.flatMap Step.symbols) (first :: rest)

/-- The symbols are the beginning of a path. -/
def Viable (symbols : List Symbol) : Prop := ∃ more steps, Forms (symbols ++ more) steps

variable {symbols : List Symbol} {steps : List Step} {step : Step} {axis : Axis}

namespace Forms

/-- An anchor and a tag test are a path of one step. -/
theorem first {anchor : List Symbol} (h : Anchor axis anchor) (test : TagTest) :
    Forms (anchor ++ [test.symbol]) [⟨axis, test, []⟩] := by
  have hforms : Forms (anchor ++ (Step.mk axis test []).body ++ [].flatMap Step.symbols) _ := .intro h
  simpa [Step.body] using hforms

/-- A path may go on with one step more. -/
theorem addStep (h : Forms symbols steps) (step : Step) :
    Forms (symbols ++ step.symbols) (steps ++ [step]) := by
  obtain ⟨hanchor⟩ := h
  rename_i anchor first rest
  have hforms : Forms (anchor ++ first.body ++ (rest ++ [step]).flatMap Step.symbols) _ :=
    .intro hanchor
  simpa using hforms

theorem addPredicate (h : Forms symbols (steps ++ [step])) (p : Predicate) :
    Forms (symbols ++ p.symbols) (steps ++ [Reading.addPredicate step p]) := by
  have hbody : (Reading.addPredicate step p).body = step.body ++ p.symbols := by
    simp [Reading.addPredicate, Step.body]
  generalize hall : steps ++ [step] = all at h
  obtain ⟨hanchor⟩ := h
  rename_i anchor first rest
  -- the last step is the first one, or one of the others
  cases steps with
  | nil =>
      cases hall
      have hforms : Forms (anchor ++ (Reading.addPredicate step p).body ++ [].flatMap Step.symbols)
        _ := .intro hanchor
      simpa [hbody] using hforms
  | cons first' steps =>
      cases hall
      have hforms : Forms
          (anchor ++ first.body ++ (steps ++ [Reading.addPredicate step p]).flatMap Step.symbols)
        _ := .intro hanchor
      have hsymbols : (Reading.addPredicate step p).symbols = step.symbols ++ p.symbols :=
        congrArg (step.axis.separator :: ·) hbody
      simpa [hsymbols] using hforms

end Forms

/-! ### What has been read -/

/-- The step that a place belongs to, if there is one. -/
def Place.step? : Place → Option Step
  | .start | .anchored | .separated _ => none
  | .stepped step | .bracketed step | .attributed step | .named step _ | .equated step _
  | .valued step _ _ => some step

/-- The symbols of the predicate that is unfinished at a place. -/
def Place.unfinished : Place → List Symbol
  | .start | .anchored | .separated _ | .stepped _ => []
  | .bracketed _ => [.openBracket]
  | .attributed _ => [.openBracket, .at]
  | .named _ name => [.openBracket, .at, .name name]
  | .equated _ name => [.openBracket, .at, .name name, .equals]
  | .valued _ name value => [.openBracket, .at, .name name, .equals, .string value]

/-- The symbols have led to the reading. -/
inductive Reads : List Symbol → Reading → Prop where
  /-- Nothing has been read. -/
  | start : Reads [] ⟨[], .start⟩
  /-- The dot at the beginning. -/
  | anchored : Reads [.dot] ⟨[], .anchored⟩
  /-- The separator of the first step. -/
  | anchor {axis : Axis} {anchor : List Symbol} (h : Anchor axis anchor) (hne : anchor ≠ []) :
      Reads anchor ⟨[], .separated axis⟩
  /-- A path and the separator of one step more. -/
  | separated {symbols : List Symbol} {steps : List Step} (h : Forms symbols steps) (axis : Axis) :
      Reads (symbols ++ [axis.separator]) ⟨steps, .separated axis⟩
  /-- A path, with a predicate of its last step unfinished. -/
  | stepped {symbols : List Symbol} {steps : List Step} {step : Step} {place : Place}
      (h : Forms symbols (steps ++ [step])) (hstep : place.step? = some step) :
      Reads (symbols ++ place.unfinished) ⟨steps, place⟩

namespace Reading

theorem axis?_eq_some_iff {symbol : Symbol} : axis? symbol = some axis ↔ symbol = axis.separator := by
  cases symbol <;> cases axis <;> simp [axis?, Axis.separator]

theorem test?_eq_some_iff {symbol : Symbol} {test : TagTest} :
    test? symbol = some test ↔ symbol = test.symbol := by
  cases symbol <;> cases test <;> simp [test?, TagTest.symbol]

/-- What one symbol more can do at a place. -/
inductive Next : Place → Symbol → Option Step → Place → Prop where
  /-- The dot at the beginning. -/
  | dot : Next .start .dot none .anchored
  /-- The separator of the first step. -/
  | anchor (axis : Axis) : Next .start axis.separator none (.separated axis)
  /-- The separator of the first step after the dot. -/
  | dotted (axis : Axis) : Next .anchored axis.separator none (.separated axis)
  /-- The tag test of a first step without a separator. -/
  | first (test : TagTest) : Next .start test.symbol none (.stepped ⟨.child, test, []⟩)
  /-- The tag test of a step. -/
  | test (axis : Axis) (test : TagTest) :
      Next (.separated axis) test.symbol none (.stepped ⟨axis, test, []⟩)
  /-- The separator of one step more. -/
  | separator (step : Step) (axis : Axis) :
      Next (.stepped step) axis.separator (some step) (.separated axis)
  /-- A symbol within a predicate. -/
  | within {place after : Place} {symbol : Symbol} {step : Step} (hstep : place.step? = some step)
      (hafter : after.step? = some step)
      (hsymbols : after.unfinished = place.unfinished ++ [symbol]) : Next place symbol none after
  /-- The end of a predicate. -/
  | predicate {place : Place} {step : Step} {p : Predicate} (hstep : place.step? = some step)
      (hsymbols : p.symbols = place.unfinished ++ [.closeBracket]) :
      Next place .closeBracket none (.stepped (addPredicate step p))

/-- Whatever symbol leads on from a place, it is one of the ways to go on. -/
theorem next_of_eq_some {place after : Place} {symbol : Symbol} {done : Option Step}
    (h : next place symbol = some (done, after)) : Next place symbol done after := by
  rw [next.eq_def] at h
  split at h
  · -- the beginning
    split at h
    · rename_i axis haxis
      cases h
      rw [axis?_eq_some_iff.mp haxis]
      exact .anchor axis
    · rename_i test _ htest
      cases h
      rw [test?_eq_some_iff.mp htest]
      exact .first test
    · split at h
      · rename_i hdot
        cases h
        rw [hdot]
        exact .dot
      · cases h
  · obtain ⟨axis, haxis, hafter⟩ := Option.map_eq_some_iff.mp h
    cases hafter
    rw [axis?_eq_some_iff.mp haxis]
    exact .dotted axis
  · rename_i axis
    obtain ⟨test, htest, hafter⟩ := Option.map_eq_some_iff.mp h
    cases hafter
    rw [test?_eq_some_iff.mp htest]
    exact .test axis test
  · rename_i step
    split at h
    · rename_i axis haxis
      cases h
      rw [axis?_eq_some_iff.mp haxis]
      exact .separator step axis
    · split at h
      · rename_i hbracket
        cases h
        rw [hbracket]
        exact .within rfl rfl rfl
      · cases h
  · split at h
    · rename_i hat
      cases h
      rw [hat]
      exact .within rfl rfl rfl
    · cases h
  · split at h
    · cases h; exact .within rfl rfl rfl
    · cases h
  · rename_i step name
    split at h
    · rename_i hequals
      cases h
      rw [hequals]
      exact .within rfl rfl rfl
    · split at h
      · rename_i hclose
        cases h
        rw [hclose]
        exact .predicate (p := .present name) rfl rfl
      · cases h
  · split at h
    · cases h; exact .within rfl rfl rfl
    · cases h
  · rename_i step name value
    split at h
    · rename_i hclose
      cases h
      rw [hclose]
      exact .predicate (p := .equal name value) rfl rfl
    · cases h

/-- What one symbol more does with a reading. -/
theorem exists_next_of_advance {reading after : Reading} {symbol : Symbol}
    (h : reading.advance symbol = some after) :
    ∃ done place, Next reading.place symbol done place ∧
      after = ⟨reading.steps ++ done.toList, place⟩ := by
  obtain ⟨⟨done, place⟩, hnext, rfl⟩ := Option.map_eq_some_iff.mp h
  exact ⟨done, place, next_of_eq_some hnext, rfl⟩

end Reading

namespace Reads

variable {reading after : Reading} {symbol : Symbol}

/-- Symbols that form a path have led behind its last step. -/
theorem of_forms (h : Forms symbols (steps ++ [step])) : Reads symbols ⟨steps, .stepped step⟩ := by
  have hreads : Reads (symbols ++ (Place.stepped step).unfinished) ⟨steps, .stepped step⟩ :=
    .stepped h rfl
  rwa [Place.unfinished, List.append_nil] at hreads

/-- **One symbol more** leads to the next reading. -/
theorem advance (h : Reads symbols reading) (hadvance : reading.advance symbol = some after) :
    Reads (symbols ++ [symbol]) after := by
  obtain ⟨done, place, hnext, rfl⟩ := Reading.exists_next_of_advance hadvance
  cases h with
  | start =>
      cases hnext with
      | dot => exact .anchored
      | anchor axis => exact .anchor (.separator axis) (by simp)
      | first test => exact of_forms (show Forms _ ([] ++ [_]) from .first .none test)
      | within hstep => cases hstep
      | predicate hstep => cases hstep
  | anchored =>
      cases hnext with
      | dotted axis => exact .anchor (.dotted axis) (by simp)
      | within hstep => cases hstep
      | predicate hstep => cases hstep
  | anchor hanchor =>
      cases hnext with
      | test axis test => exact of_forms (show Forms _ ([] ++ [_]) from .first hanchor test)
      | within hstep => cases hstep
      | predicate hstep => cases hstep
  | @separated before steps hforms axis =>
      cases hnext with
      | test axis test =>
          have hstep := hforms.addStep ⟨axis, test, []⟩
          rw [List.append_assoc, Option.toList_none, List.append_nil]
          exact of_forms hstep
      | within hstep => cases hstep
      | predicate hstep => cases hstep
  | @stepped before steps step place hforms hplace =>
      cases hnext with
      | separator step axis =>
          cases hplace
          rw [Place.unfinished, List.append_nil]
          exact .separated hforms axis
      | within hstep hafter hsymbols =>
          rw [hplace] at hstep
          cases hstep
          rw [List.append_assoc, ← hsymbols, Option.toList_none, List.append_nil]
          exact .stepped hforms hafter
      | predicate hstep hsymbols =>
          rw [hplace] at hstep
          cases hstep
          rw [List.append_assoc, ← hsymbols, Option.toList_none, List.append_nil]
          exact of_forms (hforms.addPredicate _)
      | _ => cases hplace

/-- **A run over symbols** leads to a reading of them. -/
theorem of_foldlM {more : List Symbol} (h : Reads symbols reading)
    (hrun : more.foldlM Reading.advance reading = some after) : Reads (symbols ++ more) after := by
  induction more generalizing symbols reading with
  | nil => cases hrun; rwa [List.append_nil]
  | cons symbol more ih =>
      rw [List.foldlM_cons] at hrun
      obtain ⟨between, hadvance, hrun⟩ := Option.bind_eq_some_iff.mp hrun
      rw [List.append_cons]
      exact ih (h.advance hadvance) hrun

/-- A reading that may end holds a path. -/
theorem forms_of_finish (h : Reads symbols reading) (hfinish : reading.finish = some steps) :
    Forms symbols steps := by
  cases h with
  | @stepped before done step place hforms hplace =>
      rw [Reading.finish] at hfinish
      cases place with
      | stepped =>
          cases hplace; cases hfinish
          rwa [Place.unfinished, List.append_nil]
      | _ => cases hfinish
  | _ => cases hfinish

/-- **Whatever has been read is the beginning of a path.** -/
theorem viable (h : Reads symbols reading) : Viable symbols := by
  cases h with
  | start => exact ⟨_, _, Forms.first .none .any⟩
  | anchored => exact ⟨[.slash, .star], _, Forms.first (.dotted .child) .any⟩
  | anchor hanchor => exact ⟨_, _, Forms.first hanchor .any⟩
  | @separated before steps hforms axis =>
      refine ⟨[.star], steps ++ [⟨axis, .any, []⟩], ?_⟩
      rw [List.append_assoc]
      exact hforms.addStep ⟨axis, .any, []⟩
  | @stepped before steps step place hforms hplace =>
      -- the symbols that end the predicate, if one is unfinished
      obtain hnone | ⟨more, p, hp⟩ : place.unfinished = [] ∨
          ∃ more p, Predicate.symbols p = place.unfinished ++ more := by
        cases place with
        | bracketed => exact .inr ⟨[.at, .name "", .closeBracket], .present "", rfl⟩
        | attributed => exact .inr ⟨[.name "", .closeBracket], .present "", rfl⟩
        | named _ name => exact .inr ⟨[.closeBracket], .present name, rfl⟩
        | equated _ name => exact .inr ⟨[.string "", .closeBracket], .equal name "", rfl⟩
        | valued _ name value => exact .inr ⟨[.closeBracket], .equal name value, rfl⟩
        | _ => exact .inl rfl
      · refine ⟨[], steps ++ [step], ?_⟩
        rw [hnone, List.append_nil, List.append_nil]
        exact hforms
      · refine ⟨more, steps ++ [Reading.addPredicate step p], ?_⟩
        rw [List.append_assoc, ← hp]
        exact hforms.addPredicate p

end Reads

/-! ### Paths are read to the end -/

namespace Reading

theorem advance_separator (steps : List Step) (step : Step) (axis : Axis) :
    advance ⟨steps, .stepped step⟩ axis.separator = some ⟨steps ++ [step], .separated axis⟩ := by
  cases axis <;> rfl

/-- A tag test behind a separator begins the step. -/
theorem advance_test (steps : List Step) (axis : Axis) (test : TagTest) :
    advance ⟨steps, .separated axis⟩ test.symbol =
      some ⟨steps, .stepped ⟨axis, test, []⟩⟩ := by
  cases test <;> simp [advance, next, test?, TagTest.symbol]

/-- The symbols of a predicate are read behind a step, and it gets the predicate. -/
theorem foldlM_advance_predicate (steps : List Step) (step : Step) (p : Predicate) :
    p.symbols.foldlM advance ⟨steps, .stepped step⟩ =
      some ⟨steps, .stepped (addPredicate step p)⟩ := by
  cases p <;> simp [Predicate.symbols, advance, next, axis?]

theorem foldlM_advance_predicates (steps : List Step) (step : Step) (ps : List Predicate) :
    (ps.flatMap Predicate.symbols).foldlM advance ⟨steps, .stepped step⟩ =
      some ⟨steps, .stepped { step with predicates := step.predicates ++ ps }⟩ := by
  induction ps generalizing step with
  | nil => simp
  | cons p ps ih =>
      rw [List.flatMap_cons, List.foldlM_append, foldlM_advance_predicate]
      exact (ih (addPredicate step p)).trans (by simp [addPredicate])

/-- The body of a step is read behind the separator, as the step. -/
theorem foldlM_advance_body (steps : List Step) (step : Step) :
    step.body.foldlM advance ⟨steps, .separated step.axis⟩ = some ⟨steps, .stepped step⟩ := by
  rw [Step.body, List.foldlM_cons, advance_test]
  exact foldlM_advance_predicates steps ⟨step.axis, step.test, []⟩ step.predicates

/-- Steps are read behind a step, and in the end there are all of them. -/
theorem foldlM_advance_steps (steps : List Step) (step : Step) (rest : List Step) :
    ∃ reading, (rest.flatMap Step.symbols).foldlM advance ⟨steps, .stepped step⟩ = some reading ∧
      reading.finish = some (steps ++ step :: rest) := by
  induction rest generalizing steps step with
  | nil => exact ⟨_, rfl, rfl⟩
  | cons next rest ih =>
      obtain ⟨reading, hrun, hfinish⟩ := ih (steps ++ [step]) next
      refine ⟨reading, ?_, by rw [hfinish, List.append_assoc]; rfl⟩
      rw [List.flatMap_cons, Step.symbols, List.cons_append, List.foldlM_cons, advance_separator,
        Option.bind_eq_bind, Option.bind_some, List.foldlM_append, foldlM_advance_body]
      exact hrun

/-- The first step is read behind its anchor. -/
theorem foldlM_advance_first {anchor : List Symbol} {first : Step}
    (h : Anchor first.axis anchor) :
    (anchor ++ first.body).foldlM advance begin = some ⟨[], .stepped first⟩ := by
  obtain ⟨axis, test, predicates⟩ := first
  rw [List.foldlM_append]
  cases h with
  | none =>
      -- the test begins the path, and goes on like the one after a separator
      have hbody := foldlM_advance_body [] ⟨.child, test, predicates⟩
      rw [Step.body, List.foldlM_cons, advance_test] at hbody
      rw [Step.body, List.foldlM_nil, Option.pure_def, Option.bind_eq_bind, Option.bind_some,
        List.foldlM_cons, ← hbody]
      cases test <;> rfl
  | separator =>
      rw [← foldlM_advance_body]
      cases axis <;> rfl
  | dotted =>
      rw [← foldlM_advance_body]
      cases axis <;> rfl

end Reading

/-- **Symbols that form a path** are read to its end. -/
theorem Forms.foldlM_advance (h : Forms symbols steps) :
    ∃ reading, symbols.foldlM Reading.advance .begin = some reading ∧
      reading.finish = some steps := by
  obtain ⟨hanchor⟩ := h
  rename_i anchor first rest
  rw [List.foldlM_append, Reading.foldlM_advance_first hanchor]
  exact Reading.foldlM_advance_steps [] first rest

/-- The beginning of a path is read. -/
theorem Viable.exists_reading (h : Viable symbols) :
    ∃ reading, symbols.foldlM Reading.advance .begin = some reading := by
  obtain ⟨more, steps, hforms⟩ := h
  obtain ⟨last, hrun, -⟩ := hforms.foldlM_advance
  rw [List.foldlM_append] at hrun
  obtain ⟨reading, hreading, -⟩ := Option.bind_eq_some_iff.mp hrun
  exact ⟨reading, hreading⟩

/-! ### Tokens -/

/-- Tokens are read as steps if their symbols can all be read, and the path may end behind them. -/
theorem readTokens_eq_ok_iff {length stop : Nat} {reading : Reading} {ts : List Token} :
    readTokens length stop reading ts = .ok steps ↔
      ∃ last, (ts.map (·.symbol)).foldlM Reading.advance reading = some last ∧
        last.finish = some steps := by
  induction ts generalizing stop reading with
  | nil =>
      rw [readTokens]
      cases hfinish : reading.finish with
      | some all => simp [hfinish]
      | none => simp [hfinish]
  | cons token ts ih =>
      rw [readTokens, List.map_cons, List.foldlM_cons]
      cases hadvance : reading.advance token.symbol with
      | some next => exact ih
      | none => simp

/-- What the fault of a reading is: the first token that cannot follow, or the end. -/
theorem fault_of_readTokens {length stop : Nat} {reading : Reading} {ts : List Token}
    {fault : Fault} (h : readTokens length stop reading ts = .error fault) :
    (∃ before token after last, ts = before ++ token :: after ∧
      (before.map (·.symbol)).foldlM Reading.advance reading = some last ∧
      last.advance token.symbol = none ∧
      fault = ⟨token.span, some token.symbol, last.place.expected⟩) ∨
    ∃ last, (ts.map (·.symbol)).foldlM Reading.advance reading = some last ∧
      fault = ⟨⟨length, (ts.getLast?.map (·.span.stop)).getD stop⟩, none, last.place.expected⟩ := by
  induction ts generalizing stop reading with
  | nil =>
      rw [readTokens] at h
      split at h
      · cases h
      · cases h; exact .inr ⟨reading, rfl, rfl⟩
  | cons token ts ih =>
      rw [readTokens] at h
      split at h
      · rename_i next hadvance
        rcases ih h with ⟨before, bad, after, last, rfl, hrun, hstuck, rfl⟩ | ⟨last, hrun, rfl⟩
        · refine .inl ⟨token :: before, bad, after, last, rfl, ?_, hstuck, rfl⟩
          rw [List.map_cons, List.foldlM_cons, hadvance]
          exact hrun
        · refine .inr ⟨last, ?_, ?_⟩
          · rw [List.map_cons, List.foldlM_cons, hadvance]
            exact hrun
          · cases ts with
            | nil => rfl
            | cons next ts => rw [List.getLast?_cons_cons]; rfl
      · rename_i hstuck
        cases h
        exact .inl ⟨[], token, ts, reading, rfl, rfl, hstuck, rfl⟩

/-- A text is read as a path if its symbols form the path; its source is kept without the blanks
around it. -/
theorem read_eq_ok_iff {s : String} {p : Path} :
    read s = .ok p ↔ Forms (symbolsOf s.toList) p.steps ∧ p.source = Text.trim s := by
  have hbegin : ∀ steps, readTokens (byteLength s.toList) (byteLength s.toList) .begin (tokens s) =
      .ok steps ↔ Forms (symbolsOf s.toList) steps := by
    intro steps
    rw [readTokens_eq_ok_iff]
    constructor
    · rintro ⟨last, hrun, hfinish⟩
      exact (Reads.start.of_foldlM hrun).forms_of_finish hfinish
    · exact Forms.foldlM_advance
  rw [← hbegin, read]
  cases readTokens (byteLength s.toList) (byteLength s.toList) .begin (tokens s) with
  | error fault => exact ⟨nofun, fun h => nomatch h.1⟩
  | ok steps =>
      obtain ⟨source, all⟩ := p
      constructor
      · intro h; cases h; exact ⟨rfl, rfl⟩
      · rintro ⟨h, rfl⟩; cases h; rfl

theorem readTokens_of_read {s : String} {fault : Fault} (h : read s = .error fault) :
    readTokens (byteLength s.toList) (byteLength s.toList) .begin (tokens s) = .error fault := by
  rw [read] at h
  cases hread : readTokens (byteLength s.toList) (byteLength s.toList) .begin (tokens s) with
  | error fault' => rw [hread] at h; cases h; rfl
  | ok steps => rw [hread] at h; cases h

/-- **What reading a text comes to.**  A text is read exactly if its symbols form a path, with the
steps of that path.  Otherwise there is one fault: either the first token whose symbol makes the
symbols up to it no longer viable, or the end of the text, if all symbols are viable.  The span of
the end reaches from the length of the text back to the end of the last token, which is the length
itself if the text does not end with a blank. -/
theorem read_cases (s : String) :
    (∀ p, read s = .ok p ↔ Forms ((tokens s).map (·.symbol)) p.steps ∧ p.source = Text.trim s) ∧
    ∀ fault, read s = .error fault →
      (∃ before token after, tokens s = before ++ token :: after ∧
        Viable (before.map (·.symbol)) ∧ ¬ Viable ((before ++ [token]).map (·.symbol)) ∧
        fault.span = token.span ∧ fault.found = some token.symbol) ∨
      Viable ((tokens s).map (·.symbol)) ∧ fault.found = none ∧
        fault.span = ⟨byteLength s.toList,
          ((tokens s).getLast?.map (·.span.stop)).getD (byteLength s.toList)⟩ ∧
        ((∀ c ∈ s.toList.getLast?, c.isWhitespace = false) →
          fault.span = ⟨byteLength s.toList, byteLength s.toList⟩) := by
  refine ⟨fun p => read_eq_ok_iff, fun fault h => ?_⟩
  rcases fault_of_readTokens (readTokens_of_read h) with
    ⟨before, token, after, last, htokens, hrun, hstuck, rfl⟩ | ⟨last, hrun, rfl⟩
  · refine .inl ⟨before, token, after, htokens, (Reads.start.of_foldlM hrun).viable, ?_, rfl, rfl⟩
    intro hviable
    obtain ⟨reading, hreading⟩ := hviable.exists_reading
    rw [List.map_append, List.foldlM_append, hrun] at hreading
    change (last.advance token.symbol).bind _ = some reading at hreading
    rw [hstuck] at hreading
    cases hreading
  · refine .inr ⟨(Reads.start.of_foldlM hrun).viable, rfl, rfl, fun hend => ?_⟩
    cases hlast : (tokens s).getLast? with
    | none => rfl
    | some token =>
        have hstop := stop_of_getLast? hend hlast
        rw [Nat.zero_add] at hstop
        rw [Option.map_some, Option.getD_some, hstop]

/-- A predicate without `@`: the name is the first token that no path has there. -/
theorem read_cases_predicate :
    ∃ fault, read ".//a[b]" = .error fault ∧ fault.span = ⟨5, 6⟩ ∧
      ∃ before token after, tokens ".//a[b]" = before ++ token :: after ∧
        Viable (before.map (·.symbol)) ∧ ¬ Viable ((before ++ [token]).map (·.symbol)) ∧
        fault.span = token.span ∧ fault.found = some token.symbol := by
  have hread : read ".//a[b]" = .error ⟨⟨5, 6⟩, some (.name "b"), ["'@'"]⟩ := by cbv
  refine ⟨_, hread, rfl, ?_⟩
  rcases (read_cases ".//a[b]").2 _ hread with h | ⟨-, hfound, -⟩
  · exact h
  · cases hfound

/-- The end of a text with a blank at its end is said to lie before the end. -/
theorem read_blank_end :
    Viable ((tokens "a/ ").map (·.symbol)) ∧ byteLength "a/ ".toList = 3 ∧
      ∃ fault, read "a/ " = .error fault ∧ fault.span = ⟨3, 2⟩ := by
  have htokens : (tokens "a/ ").map (·.symbol) = [.name "a", .slash] := by cbv
  refine ⟨?_, by cbv, ⟨⟨3, 2⟩, none, ["'*'"]⟩, by cbv, rfl⟩
  rw [htokens]
  exact ⟨[.star], _, (Forms.first .none (.named "a")).addStep ⟨.child, .any, []⟩⟩

end MarkupTemplates.Path
