import MarkupTemplates.Proofs.Yields

/-!
# Two runs of a computation

One run of a computation *tracks* another (`Tracks`) if it gives what a function makes of what the
other gives, and fails with the error with which the other fails; unless the other fails with an
error that counts as an excuse.  Sequences of computations track each other step by step.
-/

namespace MarkupTemplates

/-- What `f` makes of what `x` gives is what `y` gives, and an error of `x` is one of `y`, unless it
is an excuse. -/
def Tracks {ε α β : Type} (excuse : ε → Prop) (f : α → β) (x : Except ε α) (y : Except ε β) :
    Prop :=
  y = x.map f ∨ ∃ e, x = .error e ∧ excuse e

/-- What `f` makes of what `x` gives is what `y` gives; nothing is said if `x` fails. -/
abbrev Carries {ε α β : Type} (f : α → β) (x : Except ε α) (y : Except ε β) : Prop :=
  Tracks (fun _ => True) f x y

namespace Tracks

variable {ε α β γ δ : Type} {excuse : ε → Prop} {f : α → β} {g : γ → δ} {x : Except ε α}
  {y : Except ε β}

theorem of_eq (h : y = x.map f) : Tracks excuse f x y := .inl h

theorem ok (a : α) : Tracks excuse f (.ok a) (.ok (f a)) := .inl rfl

theorem error (e : ε) : Tracks excuse f (.error e) (.error e) := .inl rfl

theorem excused {e : ε} (he : excuse e) : Tracks excuse f (.error e) y := .inr ⟨e, rfl, he⟩

/-- The second run gives what the function makes of what the first gives. -/
theorem of_ok {a : α} (h : Tracks excuse f x y) (hx : x = .ok a) : y = .ok (f a) := by
  subst hx
  rcases h with h | ⟨_, he, -⟩
  · exact h
  · cases he

/-- An excuse may be replaced by another one for the errors that there are. -/
theorem mono {excuse' : ε → Prop} (h : Tracks excuse f x y)
    (himp : ∀ e, x = .error e → excuse e → excuse' e) : Tracks excuse' f x y :=
  h.imp_right fun ⟨e, he, hexcuse⟩ => ⟨e, he, himp e he hexcuse⟩

/-- Runs still track each other after functions that fit together. -/
theorem map {h : α → γ} {h' : β → δ} (hx : Tracks excuse f x y) (hh : ∀ a, h' (f a) = g (h a)) :
    Tracks excuse g (x.map h) (y.map h') := by
  rcases hx with rfl | ⟨e, rfl, he⟩
  · cases x with
    | error e => exact error e
    | ok a => exact .of_eq (congrArg Except.ok (hh a))
  · exact excused he

theorem mapError {ε' : Type} {excuse' : ε' → Prop} {h : ε → ε'} (hx : Tracks excuse f x y)
    (hh : ∀ e, excuse e → excuse' (h e)) : Tracks excuse' f (x.mapError h) (y.mapError h) := by
  rcases hx with rfl | ⟨e, rfl, he⟩
  · cases x with
    | error e => exact error (h e)
    | ok a => exact ok a
  · exact excused (hh e he)

/-- Runs that go on track each other, if what they go on with does for what the first one gives. -/
theorem bind {k : α → Except ε γ} {l : β → Except ε δ} (h : Tracks excuse f x y)
    (hk : ∀ a, x = .ok a → Tracks excuse g (k a) (l (f a))) :
    Tracks excuse g (x >>= k) (y >>= l) := by
  cases x with
  | error e =>
      rcases h with rfl | ⟨_, he, hexcuse⟩
      · exact error e
      · cases he
        exact excused hexcuse
  | ok a =>
      rw [h.of_ok rfl]
      exact hk a rfl

/-- Both runs begin alike. -/
theorem bind_same {k : α → Except ε γ} {l : α → Except ε δ}
    (hk : ∀ a, Tracks excuse g (k a) (l a)) : Tracks excuse g (x >>= k) (x >>= l) := by
  cases x with
  | error e => exact error e
  | ok a => exact hk a

/-- Runs along two lists track each other, if they do at each element. -/
theorem mapM {k : α → Except ε γ} {l : β → Except ε δ} {as : List α}
    (h : ∀ a ∈ as, Tracks excuse g (k a) (l (f a))) :
    Tracks excuse (List.map g) (as.mapM k) ((as.map f).mapM l) := by
  induction as with
  | nil => exact ok []
  | cons a as ih =>
      rw [List.map_cons, List.mapM_cons, List.mapM_cons]
      refine (h a List.mem_cons_self).bind fun c _ => ?_
      refine (ih fun a' ha' => h a' (List.mem_cons_of_mem a ha')).bind fun cs _ => ?_
      exact ok (c :: cs)

/-- Two runs along a list track each other step by step.  The error of the first run is excused only
if it is by the step at which the run stops. -/
theorem foldlM {excuse : γ → α → ε → Prop} {k : γ → α → Except ε γ} {l : δ → β → Except ε δ}
    {as : List α} (h : ∀ a ∈ as, ∀ c, Tracks (excuse c a) g (k c a) (l (g c) (f a))) :
    ∀ c, Tracks (fun e => ∃ d a, StopsAt k c as d a e ∧ excuse d a e) g (as.foldlM k c)
      ((as.map f).foldlM l (g c)) := by
  induction as with
  | nil => exact fun c => ok c
  | cons a as ih =>
      intro c
      rw [List.map_cons, List.foldlM_cons, List.foldlM_cons]
      have hfirst := (h a List.mem_cons_self c).mono fun e he hexcuse =>
        (⟨c, a, .here he, hexcuse⟩ : ∃ d a', StopsAt k c (a :: as) d a' e ∧ excuse d a' e)
      refine hfirst.bind fun next hnext => ?_
      refine (ih (fun a' ha' => h a' (List.mem_cons_of_mem a ha')) next).mono ?_
      rintro e - ⟨d, a', hstops, hexcuse⟩
      exact ⟨d, a', .there hnext hstops, hexcuse⟩

end Tracks

/-! ### A transformer of nothing -/

section

variable {ε α β : Type}

/-- A transformer of the identity goes on as the computation that it transforms. -/
theorem bind_exceptT {x : ExceptT ε Id α} {k : α → ExceptT ε Id β} :
    x >>= k = Except.bind (ε := ε) x k := by
  cases x with
  | error e => rfl
  | ok a => rfl

/-- A list is gone through in a transformer of the identity as without it. -/
theorem mapM_exceptT {k : α → ExceptT ε Id β} {as : List α} :
    as.mapM k = List.mapM (m := Except ε) k as := by
  induction as with
  | nil => rfl
  | cons a as ih =>
      rw [List.mapM_cons, List.mapM_cons, ih, bind_exceptT]
      refine congrArg (Except.bind (k a)) (funext fun b => ?_)
      exact bind_exceptT

/-- A list is folded in a transformer of the identity as without it. -/
theorem foldlM_exceptT {k : β → α → ExceptT ε Id β} {as : List α} :
    ∀ {b : β}, as.foldlM k b = List.foldlM (m := Except ε) k b as := by
  induction as with
  | nil => exact rfl
  | cons a as ih =>
      intro b
      rw [List.foldlM_cons, List.foldlM_cons, bind_exceptT]
      exact congrArg (Except.bind (k b a)) (funext fun c => ih)

end

end MarkupTemplates
