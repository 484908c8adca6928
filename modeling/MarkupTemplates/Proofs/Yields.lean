/-!
# What a computation may give

A computation that may fail *yields* a property (`Yields`) if every value has it that the
computation may give; it *blames* what has a property (`Blames`) if every error has it that the
computation may fail with.
-/

namespace MarkupTemplates

/-- Whatever the computation gives, if it does not fail, has the property. -/
def Yields {ε α : Type} (x : Except ε α) (P : α → Prop) : Prop := ∀ a, x = .ok a → P a

namespace Yields

variable {ε α β : Type} {x : Except ε α} {P : α → Prop} {Q : β → Prop}

theorem ok {a : α} (h : P a) : Yields (.ok a : Except ε α) P := by
  rintro _ ⟨⟩; exact h

theorem error (e : ε) : Yields (.error e : Except ε α) P := nofun

theorem any (x : Except ε α) : Yields x fun _ => True := fun _ _ => trivial

/-- A computation that goes on yields what is gone on to, from what was yielded before. -/
theorem bind {f : α → Except ε β} (h : Yields x P) (hf : ∀ a, P a → Yields (f a) Q) :
    Yields (x >>= f) Q := by
  intro b hb
  cases x with
  | error e => cases hb
  | ok a => exact hf a (h a rfl) b hb

theorem map {f : α → β} (h : Yields x P) (hf : ∀ a, P a → Q (f a)) : Yields (x.map f) Q := by
  intro b hb
  cases x with
  | error e => cases hb
  | ok a => cases hb; exact hf a (h a rfl)

theorem mapError {ε' : Type} {f : ε → ε'} (h : Yields x P) : Yields (x.mapError f) P := by
  intro a ha
  cases x with
  | error e => cases ha
  | ok a => cases ha; exact h a rfl

/-- Along a list, every value that is given has what each step yields. -/
theorem mapM {f : α → Except ε β} {as : List α} (h : ∀ a ∈ as, Yields (f a) Q) :
    Yields (as.mapM f) fun bs => ∀ b ∈ bs, Q b := by
  induction as with
  | nil => exact ok nofun
  | cons a as ih =>
      rw [List.mapM_cons]
      refine bind (h a List.mem_cons_self) fun b hb => ?_
      refine bind (ih fun a' ha' => h a' (List.mem_cons_of_mem a ha')) fun bs hbs => ?_
      exact ok (List.forall_mem_cons.mpr ⟨hb, hbs⟩)

/-- An invariant of the steps is yielded at the end of a fold. -/
theorem foldlM {f : β → α → Except ε β} {as : List α}
    (h : ∀ a ∈ as, ∀ b, Q b → Yields (f b a) Q) : ∀ {b : β}, Q b → Yields (as.foldlM f b) Q := by
  induction as with
  | nil => intro b hb; exact ok hb
  | cons a as ih =>
      intro b hb
      rw [List.foldlM_cons]
      refine bind (h a List.mem_cons_self b hb) fun c hc => ?_
      exact ih (fun a' ha' => h a' (List.mem_cons_of_mem a ha')) hc

end Yields

/-- Whatever the computation fails with, if it fails, has the property. -/
def Blames {ε α : Type} (x : Except ε α) (P : ε → Prop) : Prop := ∀ e, x = .error e → P e

namespace Blames

variable {ε α β : Type} {x : Except ε α} {P : ε → Prop}

theorem ok (a : α) : Blames (.ok a : Except ε α) P := nofun

theorem error {e : ε} (h : P e) : Blames (.error e : Except ε α) P := by
  rintro _ ⟨⟩; exact h

/-- A computation that goes on is to blame for what it or its continuation is to blame for. -/
theorem bind {f : α → Except ε β} (h : Blames x P) (hf : ∀ a, x = .ok a → Blames (f a) P) :
    Blames (x >>= f) P := by
  intro e he
  cases x with
  | error e' => cases he; exact h e rfl
  | ok a => exact hf a rfl e he

theorem map {f : α → β} (h : Blames x P) : Blames (x.map f) P := by
  intro e he
  cases x with
  | error e' => cases he; exact h e rfl
  | ok a => cases he

/-- Along a list, the error is one of a step. -/
theorem mapM {f : α → Except ε β} {as : List α} (h : ∀ a ∈ as, Blames (f a) P) :
    Blames (as.mapM f) P := by
  induction as with
  | nil => exact ok []
  | cons a as ih =>
      rw [List.mapM_cons]
      refine (h a List.mem_cons_self).bind fun b _ => ?_
      exact (ih fun a' ha' => h a' (List.mem_cons_of_mem a ha')).bind fun bs _ => ok (b :: bs)

end Blames

/-- A list that cannot be gone through fails at one of its elements. -/
theorem exists_of_mapM_eq_error {ε α β : Type} {f : α → Except ε β} {as : List α} {e : ε}
    (h : as.mapM f = .error e) : ∃ a ∈ as, f a = .error e := by
  have hblames : Blames (as.mapM f) fun e => ∃ a ∈ as, f a = .error e :=
    .mapM fun a ha _ he => ⟨a, ha, he⟩
  exact hblames e h

/-! ### The step that fails -/

section

variable {ε α β : Type} {f : β → α → Except ε β} {as : List α} {a a' : α} {b c c' : β} {e e' : ε}

/-- Going along a list with the step `f` from `b`, the state `c` is reached, and the step for `a`
fails there with the error `e`. -/
inductive StopsAt (f : β → α → Except ε β) : β → List α → β → α → ε → Prop where
  /-- The first step fails. -/
  | here {b : β} {a : α} {as : List α} {e : ε} : f b a = .error e → StopsAt f b (a :: as) b a e
  /-- The first step is made, and a later one fails. -/
  | there {b next c : β} {first a : α} {as : List α} {e : ε} : f b first = .ok next →
      StopsAt f next as c a e → StopsAt f b (first :: as) c a e

/-- A run stops at an element of the list. -/
theorem StopsAt.mem (h : StopsAt f b as c a e) : a ∈ as := by
  induction h with
  | here _ => exact List.mem_cons_self
  | there _ _ ih => exact List.mem_cons_of_mem _ ih

/-- The step at which a run stops is the one that fails, with the error of the run. -/
theorem StopsAt.fails (h : StopsAt f b as c a e) : f c a = .error e := by
  induction h with
  | here hfails => exact hfails
  | there _ _ ih => exact ih

/-- **A run along a list stops at one step only.** -/
theorem StopsAt.unique (h : StopsAt f b as c a e) (h' : StopsAt f b as c' a' e') :
    c = c' ∧ a = a' ∧ e = e' := by
  induction h with
  | here hfails =>
      cases h' with
      | here hfails' => cases hfails.symm.trans hfails'; exact ⟨rfl, rfl, rfl⟩
      | there hnext _ => cases hfails.symm.trans hnext
  | there hnext _ ih =>
      cases h' with
      | here hfails => cases hnext.symm.trans hfails
      | there hnext' hstops => cases hnext.symm.trans hnext'; exact ih hstops

/-- **A fold fails exactly if one of its steps does** and all steps before that one are made. -/
theorem foldlM_eq_error_iff : as.foldlM f b = .error e ↔ ∃ c a, StopsAt f b as c a e := by
  induction as generalizing b with
  | nil => exact ⟨nofun, nofun⟩
  | cons a as ih =>
      rw [List.foldlM_cons]
      cases hnext : f b a with
      | error e' =>
          constructor
          · intro h
            cases h
            exact ⟨b, a, .here hnext⟩
          · rintro ⟨_, _, hstops⟩
            cases hstops with
            | here hfails => cases hnext.symm.trans hfails; rfl
            | there hnext' _ => cases hnext.symm.trans hnext'
      | ok next =>
          refine ih.trans (exists_congr fun c => exists_congr fun a' => ⟨.there hnext, ?_⟩)
          intro hstops
          cases hstops with
          | here hfails => cases hnext.symm.trans hfails
          | there hnext' hstops => cases hnext.symm.trans hnext'; exact hstops

/-- A fold that fails does so at one of its steps. -/
theorem exists_of_foldlM_eq_error (h : as.foldlM f b = .error e) :
    ∃ a ∈ as, ∃ c, f c a = .error e := by
  obtain ⟨c, a, hstops⟩ := foldlM_eq_error_iff.mp h
  exact ⟨a, hstops.mem, c, hstops.fails⟩

end

end MarkupTemplates
