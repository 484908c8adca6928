import MarkupTemplates.Proofs.Session.Runs

/-!
# Batches

A batch is checked as a whole against the store as it stands, with the ids that the batch itself
has defined so far; a template that is registered alone is checked against the store as it stands
then.  Both checks ask the same of a template (`Store.refusal?_congr`), so that registering a batch
comes to registering its templates one after the other (`Store.registerAll_eq_registerEach`).

* `Workspace.perform_registerAll_cases`: a session accepts a batch if and only if it accepts the
  templates one by one, with the same receipts, notices and contents; the generation alone counts
  the calls.  Otherwise it refuses the batch for the reason for which it refuses the first of the
  templates that it refuses, and nothing has changed.
-/

namespace MarkupTemplates

namespace Store

/-- Registers templates one after the other, up to the first that is refused. -/
def registerEach (s : Store) : List Template → Except StoreError (Store × Noted (List Handle))
  | [] => .ok (s, ⟨[], []⟩)
  | t :: ts =>
    match s.registerAll [t] with
    | .error e => .error e
    | .ok (after, first) =>
      (registerEach after ts).map fun (last, rest) =>
        (last, ⟨first.value ++ rest.value, first.notices ++ rest.notices⟩)

/-- What a batch leads to, if there is nothing wrong with it. -/
theorem registerAll_eq_map (s : Store) (ts : List Template) :
    s.registerAll ts = (s.checkBatch [] ts).map fun _ =>
      ({ (s.addAll ts).1 with generation := s.generation + min ts.length 1 }, (s.addAll ts).2) := by
  rw [registerAll]
  cases s.checkBatch [] ts with
  | error e => rfl
  | ok _ =>
      cases ts with
      | nil => rfl
      | cons t ts => simp [Except.map]

/-- The generation plays no part in what a batch adds. -/
theorem addAll_generation (s : Store) (ts : List Template) (k : Nat) :
    ({ s with generation := k } : Store).addAll ts =
      ({ (s.addAll ts).1 with generation := k }, (s.addAll ts).2) := by
  induction ts generalizing s with
  | nil => rfl
  | cons t ts ih =>
      have hadd : ({ s with generation := k } : Store).add t =
          { s.add t with generation := k } := rfl
      rw [addAll, addAll, hadd, ih]
      rfl

/-- A template that is registered alone. -/
theorem registerAll_singleton (s : Store) (t : Template) :
    s.registerAll [t] =
      match s.refusal? [] t with
      | some e => .error e
      | none => .ok ({ s.add t with generation := s.generation + 1 },
          ⟨[s.handle t], s.noticesFor t⟩) := by
  rw [registerAll, checkBatch]
  cases s.refusal? [] t with
  | some e => rfl
  | none => simp [checkBatch, addAll]

/-- **Templates registered one after the other** are checked and added as in a batch, given that the
store has got the ids that the batch has defined so far. -/
theorem registerEach_eq_map {s : Store} {ts : List Template} :
    ∀ {cur : Store} {taken : List String},
      (∀ id, cur.contains id = (s.contains id || taken.contains id)) →
      cur.registerEach ts = (s.checkBatch taken ts).map fun _ =>
        ({ (cur.addAll ts).1 with generation := cur.generation + ts.length },
          (cur.addAll ts).2) := by
  induction ts with
  | nil => exact fun _ => rfl
  | cons t ts ih =>
      intro cur taken hcur
      rw [registerEach, registerAll_singleton, checkBatch, refusal?_congr (hcur t.id)]
      cases s.refusal? taken t with
      | some e => rfl
      | none =>
          have hnext : ∀ id, (cur.add t).contains id =
              (s.contains id || (if t.isLayer then taken else t.id :: taken).contains id) := by
            intro id
            rw [contains_add, hcur]
            by_cases hl : t.isLayer <;> by_cases hid : id = t.id <;> simp [hl, hid]
          have hrest := @ih { cur.add t with generation := cur.generation + 1 } _ hnext
          rw [addAll_generation] at hrest
          simp only [hrest, addAll, List.length_cons]
          cases s.checkBatch (if t.isLayer then taken else t.id :: taken) ts with
          | error e => rfl
          | ok _ => simp only [Except.map, List.singleton_append, Nat.add_assoc, Nat.add_comm 1]

/-- The store itself has got no ids of a batch to begin with. -/
theorem registerEach_eq_checkBatch (s : Store) (ts : List Template) :
    s.registerEach ts = (s.checkBatch [] ts).map fun _ =>
      ({ (s.addAll ts).1 with generation := s.generation + ts.length }, (s.addAll ts).2) :=
  registerEach_eq_map fun id => by simp

/-- **A batch is its templates one after the other**, counted as one step of the generation. -/
theorem registerAll_eq_registerEach (s : Store) (ts : List Template) :
    s.registerAll ts = (s.registerEach ts).map fun (after, noted) =>
      ({ after with generation := s.generation + min ts.length 1 }, noted) := by
  rw [registerAll_eq_map, registerEach_eq_checkBatch]
  cases s.checkBatch [] ts with
  | error e => rfl
  | ok _ => rfl

/-- Registered one by one, each template makes a generation of its own. -/
theorem generation_registerEach {s after : Store} {ts : List Template}
    {noted : Noted (List Handle)} (h : s.registerEach ts = .ok (after, noted)) :
    after.generation = s.generation + ts.length := by
  rw [registerEach_eq_checkBatch] at h
  cases hcheck : s.checkBatch [] ts with
  | error e => rw [hcheck] at h; cases h
  | ok _ => rw [hcheck] at h; cases h; rfl

/-- Of templates that are not all registered, one is refused by the store that holds those before
it. -/
theorem exists_of_registerEach_eq_error {s : Store} {ts : List Template} {e : StoreError}
    (h : s.registerEach ts = .error e) :
    ∃ earlier t later mid noted, ts = earlier ++ t :: later ∧
      s.registerEach earlier = .ok (mid, noted) ∧ mid.registerAll [t] = .error e := by
  induction ts generalizing s with
  | nil => cases h
  | cons t ts ih =>
      rw [registerEach] at h
      cases hfirst : s.registerAll [t] with
      | error e' =>
          rw [hfirst] at h
          cases h
          exact ⟨[], t, ts, s, _, rfl, rfl, hfirst⟩
      | ok r =>
          obtain ⟨after, first⟩ := r
          rw [hfirst] at h
          cases hrest : after.registerEach ts with
          | ok last => simp only [hrest] at h; cases h
          | error e' =>
              simp only [hrest] at h
              cases h
              obtain ⟨earlier, u, later, mid, noted, rfl, hearlier, hu⟩ := ih hrest
              refine ⟨t :: earlier, u, later, mid,
                ⟨first.value ++ noted.value, first.notices ++ noted.notices⟩, rfl, ?_, hu⟩
              simp only [registerEach, hfirst, hearlier, Except.map]

end Store

namespace Workspace

/-- What session `i` answers to operations one after the other, and the workspace after them. -/
def performEach (w : Workspace) (i : Nat) : List Operation → Workspace × List (Noted Answer)
  | [] => (w, [])
  | op :: ops =>
    let first := w.perform i op
    let rest := performEach first.1 i ops
    (rest.1, first.2 :: rest.2)

/-- Operations that are performed after others are performed on what those have left. -/
theorem performEach_append (w : Workspace) (i : Nat) (before after : List Operation) :
    w.performEach i (before ++ after) =
      (((w.performEach i before).1.performEach i after).1,
        (w.performEach i before).2 ++ ((w.performEach i before).1.performEach i after).2) := by
  induction before generalizing w with
  | nil => rfl
  | cons op before ih => simp only [List.cons_append, performEach, ih]

variable {w : Workspace} {i : Nat} {session : Session} {ts : List Template} {t : Template}

theorem perform_registerAll (hi : w.sessions[i]? = some session) (ts : List Template) :
    w.perform i (.registerAll ts) = w.registering .refused (w.registerAll session ts) := by
  rw [perform, hi]

theorem perform_register (hi : w.sessions[i]? = some session) (t : Template) :
    w.perform i (.register t) = w.registering .refused (w.registerAll session [t]) := by
  rw [perform, hi]

theorem setStore_storeOf (hlt : session.store < w.stores.length) :
    w.setStore session (w.storeOf session) = w := by
  simp [setStore, storeOf, hlt]

theorem setStore_setStore (w : Workspace) (session : Session) (a b : Store) :
    (w.setStore session a).setStore session b = w.setStore session b := by
  simp [setStore]

/-- Receipts that are given one by one are one for each answer. -/
theorem receipts_of_map_eq {answers : List (Noted Answer)} {handles : List Handle}
    (h : answers.map (·.value) = handles.map fun handle => .handles [handle]) :
    ∀ answer ∈ answers, ∃ handle, answer.value = .handles [handle] := by
  intro answer hanswer
  have hvalue : answer.value ∈ handles.map fun handle => Answer.handles [handle] :=
    h ▸ List.mem_map_of_mem hanswer
  obtain ⟨handle, -, hhandle⟩ := List.mem_map.mp hvalue
  exact ⟨handle, hhandle.symm⟩

/-- A session that registers templates one after the other gives a receipt for each. -/
theorem performEach_register (hi : w.sessions[i]? = some session)
    (hlt : session.store < w.stores.length) {after : Store} {noted : Noted (List Handle)}
    (h : (w.storeOf session).registerEach ts = .ok (after, noted)) :
    ∃ answers, w.performEach i (ts.map .register) = (w.setStore session after, answers) ∧
      answers.map (·.value) = noted.value.map (fun handle => .handles [handle]) ∧
      answers.flatMap (·.notices) = noted.notices := by
  induction ts generalizing w after noted with
  | nil =>
      cases h
      exact ⟨[], by rw [setStore_storeOf hlt]; rfl, rfl, rfl⟩
  | cons t ts ih =>
      rw [Store.registerEach, Store.registerAll_singleton] at h
      cases hrefusal : (w.storeOf session).refusal? [] t with
      | some e => rw [hrefusal] at h; cases h
      | none =>
          rw [hrefusal] at h
          let mid : Store := { (w.storeOf session).add t with
            generation := (w.storeOf session).generation + 1 }
          let next := w.setStore session mid
          have hstore : next.storeOf session = mid := storeOf_setStore mid hlt rfl
          have hnext : session.store < next.stores.length := by simpa [next, setStore] using hlt
          cases hrest : mid.registerEach ts with
          | error e => simp only [mid, hrest] at h; cases h
          | ok r =>
              obtain ⟨last, rest⟩ := r
              simp only [mid, hrest] at h
              cases h
              obtain ⟨answers, hanswers, hvalues, hnotices⟩ :=
                ih (w := next) hi hnext (by rw [hstore]; exact hrest)
              have hfirst : w.perform i (.register t) =
                  (next, ⟨.handles [(w.storeOf session).handle t],
                    (w.storeOf session).noticesFor t⟩) := by
                rw [perform_register hi, registerAll, Store.registerAll_singleton, hrefusal]
                rfl
              refine ⟨⟨.handles [(w.storeOf session).handle t],
                (w.storeOf session).noticesFor t⟩ :: answers, ?_, ?_, ?_⟩
              · rw [List.map_cons, performEach, hfirst]
                simp only [hanswers]
                rw [setStore_setStore]
              · rw [List.map_cons, hvalues]; rfl
              · rw [List.flatMap_cons, hnotices]

/-- **A batch is registered as its templates one by one, or not at all.**  A session accepts a batch
if and only if it gives a receipt for each template when they are registered one after the other.
Then the batch has the same receipts, the same notices, among them those of shared priorities, and
the same contents of the store; only the generation is one step further, if the batch is not empty,
and not one step for each template.  Otherwise there is a first template that is refused after those
before it; the batch is refused for the same reason, and nothing has changed. -/
theorem perform_registerAll_cases (hi : w.sessions[i]? = some session)
    (hlt : session.store < w.stores.length) (ts : List Template) :
    let s := w.storeOf session
    let batch := w.perform i (.registerAll ts)
    let singles := w.performEach i (ts.map .register)
    ((∃ handles, batch.2.value = .handles handles) ↔
      ∀ answer ∈ singles.2, ∃ handle, answer.value = .handles [handle]) ∧
    ((∃ (handles : List Handle) (after : Store),
        singles.2.map (·.value) = handles.map (fun handle => .handles [handle]) ∧
        singles.1 = w.setStore session after ∧
        after.generation = s.generation + ts.length ∧
        batch = (w.setStore session { after with generation := s.generation + min ts.length 1 },
          ⟨.handles handles, singles.2.flatMap (·.notices)⟩)) ∨
      ∃ earlier t later e, ts = earlier ++ t :: later ∧
        (∀ answer ∈ (w.performEach i (earlier.map .register)).2,
          ∃ handle, answer.value = .handles [handle]) ∧
        (w.performEach i (earlier.map .register)).1.answer i (.register t) = .refused e ∧
        batch = (w, ⟨.refused e, []⟩)) := by
  intro s batch singles
  have hbatch : batch = w.registering .refused
      ((s.registerEach ts).map fun (after, noted) => (w.setStore session
        { after with generation := s.generation + min ts.length 1 }, noted)) := by
    simp only [batch, perform_registerAll hi, registerAll, Store.registerAll_eq_registerEach]
    cases (w.storeOf session).registerEach ts with
    | error e => rfl
    | ok r => rfl
  cases heach : s.registerEach ts with
  | ok r =>
      obtain ⟨after, noted⟩ := r
      obtain ⟨answers, hanswers, hvalues, hnotices⟩ := performEach_register hi hlt heach
      have hsingles : singles = (w.setStore session after, answers) := hanswers
      rw [heach] at hbatch
      have hreceipts := receipts_of_map_eq hvalues
      rw [hsingles, hbatch]
      refine ⟨iff_of_true ⟨noted.value, rfl⟩ hreceipts, .inl ⟨noted.value, after, hvalues, rfl,
        Store.generation_registerEach heach, ?_⟩⟩
      rw [hnotices]
      rfl
  | error e =>
      obtain ⟨earlier, t, later, mid, noted, hts, hearlier, ht⟩ :=
        Store.exists_of_registerEach_eq_error heach
      obtain ⟨answers, hanswers, hvalues, -⟩ := performEach_register hi hlt hearlier
      have hreceipts := receipts_of_map_eq hvalues
      rw [heach] at hbatch
      -- the template that is refused is refused in the full row as well
      have hrefused : ((w.setStore session mid).perform i (.register t)).2.value = .refused e := by
        have hstore : (w.setStore session mid).storeOf session = mid :=
          storeOf_setStore mid hlt rfl
        have hmid : (w.setStore session mid).sessions[i]? = some session := hi
        rw [perform_register hmid, registerAll, hstore, ht]
        rfl
      have hmem : ∃ answer ∈ singles.2, answer.value = .refused e := by
        refine ⟨_, ?_, hrefused⟩
        simp only [singles, hts, List.map_append, List.map_cons, performEach_append, performEach,
          hanswers, List.mem_append, List.mem_cons, true_or, or_true]
      refine ⟨iff_of_false ?_ ?_, .inr ⟨earlier, t, later, e, hts, ?_, ?_, hbatch⟩⟩
      · rintro ⟨handles, hhandles⟩
        rw [hbatch] at hhandles
        cases hhandles
      · intro hall
        obtain ⟨answer, hanswer, hvalue⟩ := hmem
        obtain ⟨handle, hhandle⟩ := hall answer hanswer
        cases hhandle.symm.trans hvalue
      · rw [hanswers]; exact hreceipts
      · rw [hanswers]; exact hrefused

/-- A layer of a priority that there is already, a new id, and the same id again. -/
theorem perform_registerAll_cases_duplicate :
    let w := (start {}).run [(0, .registerAll [⟨"a", .root [], .inline⟩,
      ⟨"a", .layer "a" 1 [], .inline⟩])]
    let ts : List Template := [⟨"a", .layer "a" 1 [], .inline⟩, ⟨"b", .root [], .inline⟩,
      ⟨"b", .copy "a" [], .inline⟩]
    let batch := w.perform 0 (.registerAll ts)
    let singles := w.performEach 0 (ts.map .register)
    singles.2 = [⟨.handles [⟨"a", 2, some .inPlace⟩],
        [.sharedPriority "a" 1, .registered "a" (some .inPlace)]⟩,
      ⟨.handles [⟨"b", 3, none⟩], [.registered "b" none]⟩, ⟨.refused (.duplicate "b"), []⟩] ∧
    batch.2 = ⟨.refused (.duplicate "b"), []⟩ ∧
    ((∃ handles, batch.2.value = .handles handles) ↔
      ∀ answer ∈ singles.2, ∃ handle, answer.value = .handles [handle]) := by
  intro w ts batch singles
  obtain ⟨session, hi, hstore⟩ : ∃ session, w.sessions[0]? = some session ∧ session.store = 0 :=
    ⟨_, rfl, rfl⟩
  have hlt : session.store < w.stores.length := by rw [hstore]; decide
  exact ⟨rfl, rfl, (perform_registerAll_cases hi hlt ts).1⟩

end Workspace

end MarkupTemplates
