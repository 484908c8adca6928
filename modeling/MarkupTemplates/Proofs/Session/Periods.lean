import MarkupTemplates.Proofs.Compile.Accounts
import MarkupTemplates.Proofs.Session.Coverage
import MarkupTemplates.Proofs.Session.Termination
import MarkupTemplates.Proofs.Template.Loading

/-!
# Each id once in a period

The outcomes that a session stores last for a *period* of a run (`Period`).  A period ends when the
session forgets its outcomes, and with its first lookup after templates were registered with its
store, by whichever session.  `Workspace.periodOf` reads the period off the answers and notices of a
run alone.

A memo *keeps* a period (`Memo.Keeps`) when its outcomes are those of the ids resolved in it, and
its counter says how many these are.  Every operation keeps the period of every session
(`Workspace.Coherent.keeps_step`), so that no id is resolved twice in a period
(`Workspace.nodup_resolved_of_reachable`).
-/

namespace MarkupTemplates

/-! ### Periods -/

/-- Whether an operation begins a period, if the outcomes of the session are outdated or not. -/
def Operation.beginsPeriod (outdated : Bool) : Operation → Bool
  | .invalidate => true
  | .compile _ | .compileAll | .compileOrder => outdated
  | _ => false

/-- Whether an answer gives receipts for templates. -/
def Answer.accepts : Answer → Bool
  | .handles (_ :: _) => true
  | _ => false

/-- What happened in a period of a session. -/
structure Period where
  /-- Whether templates have been registered with the store of the session. -/
  outdated : Bool := false
  /-- The ids resolved by the session, in order. -/
  resolved : List String := []
  /-- The number of resolutions before the period. -/
  before : Nat := 0

namespace Period

/-- The period with more ids resolved. -/
def add (p : Period) (new : List String) : Period := { p with resolved := p.resolved ++ new }

/-- The period that a lookup belongs to, after `before` resolutions. -/
def lookUp (p : Period) (before : Nat) : Period := if p.outdated then { before } else p

/-- The ids whose outcomes a lookup finds stored. -/
def current (p : Period) : List String := if p.outdated then [] else p.resolved

@[simp] theorem add_nil (p : Period) : p.add [] = p := by simp [add]

@[simp] theorem resolved_lookUp (p : Period) (before : Nat) :
    (p.lookUp before).resolved = p.current := by
  rw [lookUp, current]; split <;> rfl

theorem outdated_lookUp (p : Period) (before : Nat) : (p.lookUp before).outdated = false := by
  rw [lookUp]
  split
  · rfl
  · rename_i h; simpa using h

theorem lookUp_eq {p : Period} (h : p.outdated = false) (before : Nat) : p.lookUp before = p := by
  rw [lookUp, h]; rfl

theorem add_add (p : Period) (new later : List String) :
    (p.add new).add later = p.add (new ++ later) := by simp [add]

end Period

namespace Workspace

/-- The number of resolutions of session `i`. -/
def resolutionsOf (w : Workspace) (i : Nat) : Nat :=
  match w.sessions[i]? with
  | some session => session.memo.stats.resolutions
  | none => 0

/-- Whether two sessions work on one store. -/
def together (w : Workspace) (i j : Nat) : Bool :=
  match w.sessions[i]?, w.sessions[j]? with
  | some session, some other => session.store = other.store
  | _, _ => false

/-- The period of session `i` after an operation for session `j`, given the period before. -/
def nextPeriod (w : Workspace) (i : Nat) (p : Period) (j : Nat) (op : Operation) : Period :=
  let noted := (w.perform j op).2
  let next :=
    if j = i then
      (if op.beginsPeriod p.outdated then { before := w.resolutionsOf i } else p).add
        (resolvedIn noted.notices)
    else p
  if w.together i j && noted.value.accepts then { next with outdated := true } else next

/-- The period of session `i` after a run, given the period before. -/
def periodOf (w : Workspace) (i : Nat) (p : Period) : List (Nat × Operation) → Period
  | [] => p
  | (j, op) :: rest => (w.step j op).periodOf i (w.nextPeriod i p j op) rest

end Workspace

/-! ### Memos -/

namespace Memo

/-- The memo is what a session has at the end of the period, with the store `s` by now. -/
structure Keeps (m : Memo) (s : Store) (p : Period) : Prop where
  /-- It serves the store. -/
  serves : m.Serves s
  /-- Its outcomes are in order. -/
  accounts : m.store.Accounts m.outcomes
  /-- The period is outdated when the store has moved on. -/
  outdated : p.outdated = true ↔ m.store.generation < s.generation
  /-- The outcomes are those of the ids resolved. -/
  perm : (stored m.outcomes).Perm p.resolved
  /-- Each resolution is counted. -/
  resolutions : m.resolutions = p.before + p.resolved.length

variable {m : Memo} {s : Store} {p : Period}

theorem keeps_new (s : Store) : ({ store := s } : Memo).Keeps s {} :=
  ⟨serves_new s, s.accounts_nil, by simp, .refl _, rfl⟩

theorem keeps_reset (m : Memo) (s : Store) : (m.reset s).Keeps s { before := m.resolutions } :=
  ⟨m.serves_reset s, s.accounts_nil, by simp [reset], .refl _, rfl⟩

/-- A batch that is not empty makes the period outdated, and an empty one does nothing. -/
theorem Keeps.registerAll (h : m.Keeps s p) {after : Store} {ts : List Template}
    {handles : Noted (List Handle)} (hreg : s.registerAll ts = .ok (after, handles)) :
    m.Keeps after (if ts = [] then p else { p with outdated := true }) := by
  have hgen := Store.generation_registerAll hreg
  have hle := h.serves.generation_le
  split at hgen
  · rename_i hts
    rw [if_pos hts]
    exact ⟨h.serves.registerAll hreg, h.accounts, hgen ▸ h.outdated, h.perm, h.resolutions⟩
  · rename_i hts
    rw [if_neg hts]
    exact ⟨h.serves.registerAll hreg, h.accounts, iff_of_true rfl (by omega), h.perm, h.resolutions⟩

/-- What a refreshed memo is. -/
theorem Keeps.refresh_eq (h : m.Keeps s p) :
    (m.refresh s).value = (if p.outdated then m.reset s else m) ∧
      resolvedIn (m.refresh s).notices = [] := by
  rw [Memo.refresh]
  by_cases hout : p.outdated = true
  · rw [if_pos (h.outdated.mp hout), if_pos hout]; exact ⟨rfl, rfl⟩
  · rw [if_neg (mt h.outdated.mpr hout), if_neg hout]; exact ⟨rfl, rfl⟩

/-- A lookup begins a period if the one before is outdated. -/
theorem Keeps.refresh (h : m.Keeps s p) :
    (m.refresh s).value.Keeps s (p.lookUp m.resolutions) := by
  rw [h.refresh_eq.1, Period.lookUp]
  split
  · exact m.keeps_reset s
  · exact h

/-- A compilation gives the outcome and leaves what it has remembered and counted. -/
theorem compileHere_eq {id : String} {outcome : Outcome} {q : Progress}
    (h : (compileIn m.store [] id).run m.progress = some (outcome, q)) :
    m.compileHere id = (⟨outcome, q.notices⟩,
      { m with outcomes := q.outcomes, resolutions := q.resolutions, hits := q.hits }) := by
  rw [progress] at h
  rw [Memo.compileHere, h]

/-- **Compiling an id keeps a period** in which its outcomes are not outdated: it adds the ids that
are resolved. -/
theorem Keeps.compileHere (h : m.Keeps s p) (hm : m.store = s) (hs : s.Indexed) (id : String) :
    (m.compileHere id).2.Keeps s (p.add (resolvedIn (m.compileHere id).1.notices)) ∧
      (m.compileHere id).2.store = s ∧
      ∃ q, s.Settled id m.progress q (resolvedIn (m.compileHere id).1.notices) ∧
        (m.compileHere id).2.outcomes = q.outcomes := by
  have hserves := (h.serves.compileHere hm hs id).2
  subst hm
  obtain ⟨q, new, hrun, hsettled⟩ :=
    hs.settled_compileIn id [] Graph.leadsTo_nil m.progress h.accounts
  obtain rfl : resolvedIn q.notices = new := hsettled.resolves.notices
  rw [compileHere_eq hrun] at hserves ⊢
  refine ⟨⟨hserves, hsettled.accounts, h.outdated, ?_, ?_⟩, rfl, q, hsettled, rfl⟩
  · exact hsettled.resolves.perm.trans (List.perm_append_comm.trans (h.perm.append_right _))
  · have hcount := hsettled.resolves.resolutions
    rw [Memo.progress, h.resolutions, Nat.add_assoc] at hcount
    rw [Period.add, List.length_append]
    exact hcount

/-- A compilation adds to the period the ids that its notices say are resolved, and the outcomes are
those that the memory holds. -/
theorem Keeps.compile (h : m.Keeps s p) (hs : s.Indexed) (id : String) :
    (m.compile s id).2.Keeps s
        ((p.lookUp m.resolutions).add (resolvedIn (m.compile s id).1.notices)) ∧
      ∃ q, s.Settled id (m.refresh s).value.progress q (resolvedIn (m.compile s id).1.notices) ∧
        (m.compile s id).2.outcomes = q.outcomes := by
  obtain ⟨hkeeps, -, q, hsettled, hq⟩ :=
    h.refresh.compileHere h.serves.refresh.2 hs id
  have hnew : resolvedIn (m.compile s id).1.notices =
      resolvedIn ((m.refresh s).value.compileHere id).1.notices := by
    rw [Memo.compile, resolvedIn_append, h.refresh_eq.2, List.nil_append]
  rw [hnew]
  exact ⟨hkeeps, q, hsettled, hq⟩

/-- An id that the store knows is resolved by the end of its compilation. -/
theorem Keeps.mem_of_compile (h : m.Keeps s p) (hs : s.Indexed) {id : String}
    (hk : s.knows id = true) :
    id ∈ ((p.lookUp m.resolutions).add (resolvedIn (m.compile s id).1.notices)).resolved := by
  obtain ⟨hkeeps, q, hsettled, hq⟩ := h.compile hs id
  exact hkeeps.perm.mem_iff.mp (hq ▸ hsettled.mem hk)

/-- Ids that are compiled one after the other are all resolved in the period then, if they are
known. -/
theorem Keeps.compileEach (h : m.Keeps s p) (hp : p.outdated = false) (hs : s.Indexed)
    (ids : List String) :
    (m.compileEach s ids).2.Keeps s (p.add (resolvedIn (m.compileEach s ids).1.notices)) ∧
      ∀ id ∈ ids, s.knows id = true →
        id ∈ (p.add (resolvedIn (m.compileEach s ids).1.notices)).resolved := by
  induction ids generalizing m p with
  | nil => exact ⟨(p.add_nil).symm ▸ h, nofun⟩
  | cons id ids ih =>
      have hone := (h.compile hs id).1
      have hmem : s.knows id = true → _ := h.mem_of_compile hs
      rw [p.lookUp_eq hp] at hone hmem
      obtain ⟨hrest, hmems⟩ := ih hone hp
      rw [Period.add_add] at hrest hmems
      have hnew : resolvedIn (m.compileEach s (id :: ids)).1.notices =
          resolvedIn (m.compile s id).1.notices ++
            resolvedIn ((m.compile s id).2.compileEach s ids).1.notices := resolvedIn_append _ _
      rw [hnew]
      refine ⟨hrest, List.forall_mem_cons.mpr ⟨fun hk => ?_, hmems⟩⟩
      have := hmem hk
      simp only [Period.add, List.mem_append] at this ⊢
      tauto

theorem resolvedIn_order (s : Store) : resolvedIn (order s).notices = [] := by
  rw [order]; split <;> rfl

/-- **Compiling all ids keeps a period**, and resolves all ids in it. -/
theorem Keeps.compileAll (h : m.Keeps s p) (hs : s.Indexed) :
    let next := (p.lookUp m.resolutions).add (resolvedIn (m.compileAll s).1.notices)
    (m.compileAll s).2.Keeps s next ∧
      ∀ id ∈ (order s).value, s.knows id = true → id ∈ next.resolved := by
  have hnew : resolvedIn (m.compileAll s).1.notices =
      resolvedIn ((m.refresh s).value.compileEach s (order s).value).1.notices := by
    rw [Memo.compileAll, resolvedIn_append, resolvedIn_append, h.refresh_eq.2, resolvedIn_order]
    rfl
  rw [hnew]
  exact h.refresh.compileEach (p.outdated_lookUp _) hs (order s).value

/-! ### What a memo that keeps a period shows -/

/-- No id is resolved twice in a period. -/
theorem Keeps.nodup (h : m.Keeps s p) : p.resolved.Nodup := h.perm.nodup_iff.mp h.accounts.nodup

/-- The stored outcomes are as many as the ids resolved in the period. -/
theorem Keeps.cached (h : m.Keeps s p) : m.stats.cached = p.resolved.length := by
  rw [← h.perm.length_eq, stored, List.length_map]; rfl

/-- In a period that is not outdated the memo is for the store as it is. -/
theorem Keeps.store_eq (h : m.Keeps s p) (hp : p.outdated = false) : m.store = s := by
  have hnot : ¬ m.store.generation < s.generation := fun hlt => by
    rw [h.outdated.mpr hlt] at hp; cases hp
  have hle := h.serves.generation_le
  exact h.serves.current (by omega)

/-- **Compiling all ids stores an outcome for each of them.** -/
theorem Keeps.cached_compileAll (h : m.Keeps s p) (hs : s.Registered) :
    (m.compileAll s).2.stats.cached = s.ids.length := by
  obtain ⟨hkeeps, hall⟩ := h.compileAll hs.indexed
  have hstore := hkeeps.store_eq (p.outdated_lookUp _)
  -- the ids resolved in the period are the ids of the store, each once
  rw [hkeeps.cached]
  refine ((List.perm_ext_iff_of_nodup hkeeps.nodup hs.nodup_ids).mpr fun id => ⟨?_, ?_⟩).length_eq
  · intro hid
    have hk := hkeeps.accounts.knows id (hkeeps.perm.mem_iff.mpr hid)
    exact Store.mem_ids_iff.mpr (hstore ▸ hk)
  · exact fun hid => hall id (hs.order_perm.mem_iff.mpr hid) (Store.mem_ids_iff.mp hid)

/-- Only the counter changes when the outcome of an id is stored. -/
theorem Keeps.compile_of_mem (h : m.Keeps s p) {id : String} (hid : id ∈ p.current) :
    (m.compile s id).2 = { m with hits := m.hits + 1 } := by
  obtain ⟨hout, hmem⟩ : p.outdated = false ∧ id ∈ p.resolved := by
    rw [Period.current] at hid
    split at hid
    · cases hid
    · rename_i hout
      exact ⟨by simpa using hout, hid⟩
  have hfresh : (m.refresh s).value = m := by rw [h.refresh_eq.1, hout]; rfl
  have hmem : id ∈ stored m.outcomes := h.perm.mem_iff.mpr hmem
  cases hl : m.outcomes.lookup id with
  | none => exact absurd hmem (not_mem_stored_of_lookup hl)
  | some outcome =>
      have hrun : (compileIn m.store [] id).run m.progress = some (outcome, m.progress.hit) :=
        compileIn_of_lookup (h.accounts.knows id hmem) hl
      rw [Memo.compile, hfresh, compileHere_eq hrun]
      rfl

/-- An unknown id is not resolved, but looking for it begins a period if the one before is outdated.
-/
theorem Keeps.compile_of_unknown (h : m.Keeps s p) {id : String} (hk : ¬ s.knows id = true) :
    (m.compile s id).2 = if p.outdated then m.reset s else m := by
  have hstore := h.serves.refresh.2
  have hrun : (compileIn (m.refresh s).value.store [] id).run (m.refresh s).value.progress =
      some (.error (.notFound id), (m.refresh s).value.progress) :=
    compileIn_of_unknown (hstore.symm ▸ hk)
  rw [Memo.compile, compileHere_eq hrun, ← h.refresh_eq.1]
  rfl

end Memo

/-! ### Sessions -/

namespace Workspace

/-- What an operation for session `j` can come to, its answer and notices included. -/
inductive Effect (w : Workspace) (j : Nat) (other : Session) (op : Operation) :
    Workspace × Noted Answer → Prop where
  /-- It is refused, and nothing changes. -/
  | refused {answer : Answer} :
      (∀ outdated, op.beginsPeriod outdated = false) → answer.accepts = false →
      Effect w j other op (w, ⟨answer, []⟩)
  /-- The store of the session gets a batch more; nothing is resolved. -/
  | store {ts : List Template} {after : Store} {handles : Noted (List Handle)}
      {notices : List Notice} :
      (∀ outdated, op.beginsPeriod outdated = false) →
      (w.storeOf other).registerAll ts = .ok (after, handles) → resolvedIn notices = [] →
      Effect w j other op (w.setStore other after, ⟨.handles handles.value, notices⟩)
  /-- The session has another memo, which keeps the period with what was resolved. -/
  | memo {m : Memo} {answer : Answer} {notices : List Notice} :
      answer.accepts = false →
      ((w.storeOf other).Indexed → ∀ p, other.memo.Keeps (w.storeOf other) p →
        m.Keeps (w.storeOf other)
          ((if op.beginsPeriod p.outdated then { before := other.memo.resolutions } else p).add
            (resolvedIn notices))) →
      Effect w j other op (w.setMemo j other m, ⟨answer, notices⟩)
  /-- One more session begins, perhaps on a store of its own. -/
  | begin {after : Workspace} {new : Session} {extra : List Store} :
      (∀ outdated, op.beginsPeriod outdated = false) → after.stores = w.stores ++ extra →
      after.sessions = w.sessions ++ [new] → Effect w j other op (after, ⟨.done, []⟩)

/-- Registering resolves nothing. -/
theorem resolvedIn_registerAll {s after : Store} {ts : List Template}
    {handles : Noted (List Handle)} (h : s.registerAll ts = .ok (after, handles)) :
    resolvedIn handles.notices = [] := by
  have hadd : resolvedIn (s.addAll ts).2.notices = [] := by
    clear h
    induction ts generalizing s with
    | nil => rfl
    | cons t ts ih =>
        have hnotices : resolvedIn (s.noticesFor t) = [] := by
          rw [Store.noticesFor]; split <;> rfl
        rw [Store.addAll, resolvedIn_append, hnotices]
        exact ih
  rw [Store.registerAll] at h
  split at h
  · cases h
  · split at h <;> cases h
    · rfl
    · exact hadd

/-- **An operation does one of four things**, and says which ids it resolves. -/
theorem effect_perform {w : Workspace} {j : Nat} {other : Session}
    (hj : w.sessions[j]? = some other) (op : Operation) :
    Effect w j other op (w.perform j op) := by
  have hreg : ∀ ts, (∀ outdated, op.beginsPeriod outdated = false) →
      Effect w j other op (w.registering .refused (w.registerAll other ts)) := by
    intro ts hop
    rw [registerAll]
    cases hr : (w.storeOf other).registerAll ts with
    | error e => exact .refused hop rfl
    | ok r => exact .store hop hr (resolvedIn_registerAll hr)
  cases op with
  | register t => rw [perform, hj]; exact hreg [t] fun _ => rfl
  | registerAll ts => rw [perform, hj]; exact hreg ts fun _ => rfl
  | load name source =>
      rw [perform, hj]
      simp only [load, Store.load]
      cases readTemplates other.settings.minify name source with
      | error es => exact .refused (fun _ => rfl) rfl
      | ok ts =>
          cases hr : (w.storeOf other).registerAll ts with
          | error e => simp only [hr]; exact .refused (fun _ => rfl) rfl
          | ok r =>
              have hnotices : resolvedIn (r.2.notices ++ [.loaded r.2.value.length name]) = [] := by
                rw [resolvedIn_append, resolvedIn_registerAll hr]; rfl
              have hstore : Effect w j other (.load name source) (w.setStore other r.1,
                  ⟨.handles r.2.value, r.2.notices ++ [.loaded r.2.value.length name]⟩) :=
                .store (fun _ => rfl) hr hnotices
              simp only [hr]
              exact hstore
  | compile id =>
      rw [perform, hj]
      exact .memo rfl fun hs p h => (h.compile hs id).1
  | compileAll =>
      rw [perform, hj]
      exact .memo rfl fun hs p h => (h.compileAll hs).1
  | compileOrder =>
      rw [perform, hj]
      refine .memo rfl fun _ p h => ?_
      change Memo.Keeps _ _ (Period.add _ (resolvedIn (other.memo.refresh _).notices))
      rw [h.refresh_eq.2, Period.add_nil]
      exact h.refresh
  | invalidate => rw [perform, hj]; exact .memo rfl fun _ p _ => other.memo.keeps_reset _
  | fork => rw [perform, hj]; exact .begin (fun _ => rfl) rfl rfl
  | share settings =>
      rw [perform, hj]
      exact .begin (fun _ => rfl) (List.append_nil w.stores).symm rfl
  | start settings => rw [perform, hj]; exact .begin (fun _ => rfl) rfl rfl

/-- The memo of session `i` keeps a period. -/
def Keeps (w : Workspace) (i : Nat) (p : Period) : Prop :=
  ∃ session, w.sessions[i]? = some session ∧ session.memo.Keeps (w.storeOf session) p

section

variable {w : Workspace} {i j : Nat} {p : Period} {other : Session}

/-- Receipts are given exactly for a batch that is not empty. -/
theorem accepts_handles {s after : Store} {ts : List Template} {handles : Noted (List Handle)}
    (h : s.registerAll ts = .ok (after, handles)) :
    (Answer.handles handles.value).accepts = !ts.isEmpty := by
  rw [Store.value_registerAll h]
  cases ts with
  | nil => rfl
  | cons t ts => rw [List.mapIdx_cons]; rfl

/-- A batch more makes the periods of the sessions on its store outdated. -/
theorem Keeps.setStore (h : w.Keeps i p) (hw : w.Coherent) (hj : w.sessions[j]? = some other)
    {ts : List Template} {after : Store} {handles : Noted (List Handle)}
    (hreg : (w.storeOf other).registerAll ts = .ok (after, handles)) :
    (w.setStore other after).Keeps i
      (if w.together i j && (Answer.handles handles.value).accepts then { p with outdated := true }
        else p) := by
  obtain ⟨session, hi, hkeeps⟩ := h
  refine ⟨session, hi, ?_⟩
  have htogether : w.together i j = decide (session.store = other.store) := by
    rw [together, hi, hj]
  rw [htogether, accepts_handles hreg]
  by_cases hk : other.store = session.store
  · have hbefore : w.storeOf session = w.storeOf other := by simp only [storeOf, hk]
    rw [storeOf_setStore after (hw.store_lt other (List.mem_of_getElem? hj)) hk,
      decide_eq_true hk.symm, Bool.true_and]
    have hafter := (hbefore ▸ hkeeps).registerAll hreg
    cases ts <;> exact hafter
  · rw [storeOf_setStore_of_ne after hk, decide_eq_false (Ne.symm hk)]
    exact hkeeps

/-- A session that begins leaves the others their periods. -/
theorem Keeps.begin (h : w.Keeps i p) (hw : w.Coherent) {after : Workspace} {new : Session}
    {extra : List Store} (hstores : after.stores = w.stores ++ extra)
    (hsessions : after.sessions = w.sessions ++ [new]) : after.Keeps i p := by
  obtain ⟨session, hi, hkeeps⟩ := h
  obtain ⟨hil, -⟩ := List.getElem?_eq_some_iff.mp hi
  refine ⟨session, by rw [hsessions, List.getElem?_append_left hil, hi], ?_⟩
  have hstore := storeOf_append w extra after.sessions
    (hw.store_lt session (List.mem_of_getElem? hi))
  rw [← hstores] at hstore
  exact hstore.symm ▸ hkeeps

/-- Another memo of another session leaves the period. -/
theorem Keeps.setMemo (h : w.Keeps i p) (hij : j ≠ i) (m : Memo) :
    (w.setMemo j other m).Keeps i p := by
  obtain ⟨session, hi, hkeeps⟩ := h
  exact ⟨session, by simp [Workspace.setMemo, hij, hi], hkeeps⟩

/-- **Every operation keeps the period of every session.** -/
theorem Coherent.keeps_step (hw : w.Coherent) (h : w.Keeps i p) (j : Nat) (op : Operation) :
    (w.step j op).Keeps i (w.nextPeriod i p j op) := by
  cases hj : w.sessions[j]? with
  | none =>
      have hperform : w.perform j op = (w, ⟨.noSession, []⟩) := by rw [perform, hj]
      have hij : j ≠ i := fun hij => by
        obtain ⟨session, hi, -⟩ := h
        rw [hij, hi] at hj; cases hj
      rw [nextPeriod, Workspace.step, hperform]
      simpa [hij, Answer.accepts] using h
  | some other =>
      have heffect := effect_perform hj op
      rw [nextPeriod, Workspace.step]
      generalize w.perform j op = result at heffect ⊢
      cases heffect with
      | refused hop hanswer => simpa [hop, hanswer] using h
      | store hop hreg hnotices => simpa [hop, hnotices] using h.setStore hw hj hreg
      | begin hop hstores hsessions =>
          simpa [hop, Answer.accepts] using h.begin hw hstores hsessions
      | @memo m answer notices hanswer hm =>
          -- only the session's own memo bears on its period
          by_cases hij : j = i
          · subst hij
            obtain ⟨session, hi, hkeeps⟩ := h
            obtain rfl : session = other := Option.some.inj (hi.symm.trans hj)
            obtain ⟨hil, -⟩ := List.getElem?_eq_some_iff.mp hi
            have hresolutions : w.resolutionsOf j = session.memo.resolutions := by
              rw [resolutionsOf, hi]; rfl
            simp only [hanswer, Bool.and_false, if_true, Bool.false_eq_true, if_false, hresolutions]
            exact ⟨{ session with memo := m }, by simp [Workspace.setMemo, hil],
              hm (hw.indexed_storeOf session) p hkeeps⟩
          · simpa [hanswer, hij] using h.setMemo hij m

/-- **Every run keeps the period of every session.** -/
theorem Coherent.keeps_run (hw : w.Coherent) (h : w.Keeps i p) (calls : List (Nat × Operation)) :
    (w.run calls).Keeps i (w.periodOf i p calls) := by
  induction calls generalizing w p with
  | nil => exact h
  | cons c calls ih => exact ih (hw.step c.1 c.2) (hw.keeps_step h c.1 c.2)

/-- **Each id is resolved once in a period, and the counters say so.**  Let a session of a reachable
workspace have just begun, and let any calls follow.  At the end, no id was resolved twice in the
period of the session; there is an outcome for each id resolved in it and for no other; and the
resolutions counted in it are as many.

Compiling an id that has an outcome then counts a hit and does nothing else; compiling an id that
has neither a definition nor layers counts and stores nothing; compiling an id that succeeds, and
reaches only templates read from sources, resolves exactly what the id reaches and has no outcome
yet; and compiling all ids leaves an outcome for each of them. -/
theorem nodup_resolved_of_reachable {start : Workspace} (h : start.Reachable) {first : Session}
    (hi : start.sessions[i]? = some first) (hfirst : first.memo = { store := start.storeOf first })
    (calls : List (Nat × Operation)) :
    let w := start.run calls
    let p := start.periodOf i {} calls
    ∃ session, w.sessions[i]? = some session ∧
      let s := w.storeOf session
      let stats := session.memo.stats
      (p.resolved.Nodup ∧ (stored session.memo.outcomes).Perm p.resolved ∧
        stats.cached = p.resolved.length ∧ stats.resolutions = p.before + stats.cached) ∧
      (∀ id ∈ p.current, w.step i (.compile id) =
        w.setMemo i session { session.memo with hits := session.memo.hits + 1 }) ∧
      (∀ id, s.contains id = false → s.hasLayers id = false → w.step i (.compile id) =
        w.setMemo i session
          (if p.outdated then { session.memo with store := s, outcomes := [] } else session.memo)) ∧
      (∀ id c, w.answer i (.compile id) = .outcome (.ok c) →
        (∀ t ∈ s.templates, s.graph.Reaches id t.id →
          ∃ minify name source ts, readTemplates minify name source = .ok ts ∧ t ∈ ts) →
        ∀ x, x ∈ resolvedIn (w.perform i (.compile id)).2.notices ↔
          s.graph.Reaches id x ∧ x ∉ p.current) ∧
      ∃ session', (w.step i .compileAll).sessions[i]? = some session' ∧
        session'.memo.stats.cached = s.ids.length := by
  intro w p
  have hw : w.Coherent := h.coherent.run calls
  have hstart : start.Keeps i {} := ⟨first, hi, hfirst ▸ Memo.keeps_new _⟩
  obtain ⟨session, hsession, hkeeps⟩ := h.coherent.keeps_run hstart calls
  obtain ⟨hil, -⟩ := List.getElem?_eq_some_iff.mp hsession
  have hs : (w.storeOf session).Registered := hw.registered_storeOf session
  have hcompile : ∀ id, w.perform i (.compile id) =
      (w.setMemo i session (session.memo.compile (w.storeOf session) id).2,
        ⟨.outcome (session.memo.compile (w.storeOf session) id).1.value,
          (session.memo.compile (w.storeOf session) id).1.notices⟩) := fun id => by
    rw [perform, hsession]; rfl
  refine ⟨session, hsession, ⟨hkeeps.nodup, hkeeps.perm, hkeeps.cached, ?counted⟩, ?hit, ?unknown,
    ?resolved, ?all⟩
  case counted => rw [hkeeps.cached]; exact hkeeps.resolutions
  case hit =>
    intro id hid
    rw [step, hcompile, hkeeps.compile_of_mem hid]
  case unknown =>
    intro id hcontains hlayers
    have hk : ¬ (w.storeOf session).knows id = true := by
      rw [hs.indexed.knows_eq, hcontains, hlayers]; simp
    rw [step, hcompile, hkeeps.compile_of_unknown hk]
    rfl
  case resolved =>
    intro id c hc hread x
    have hresolve : (w.storeOf session).resolve id = .ok c := by
      rw [hw.answer_compile hsession] at hc
      exact Answer.outcome.inj hc
    have hsound : ∀ x, (w.storeOf session).graph.Reaches id x → (w.storeOf session).SoundAt x := by
      rintro x hx t ht rfl nodes hnodes
      obtain ⟨minify, name, source, ts, hts, hmem⟩ := hread t ht hx
      obtain ⟨tree, -, hall⟩ := readTemplates_parts hts
      exact (hall t hmem nodes hnodes).1
    obtain ⟨-, q, hsettled, -⟩ := hkeeps.compile hs.indexed id
    rw [hcompile, hsettled.mem_iff hs.indexed hresolve hsound]
    have hcurrent := hkeeps.refresh.perm.mem_iff (a := x)
    rw [Period.resolved_lookUp] at hcurrent
    exact and_congr_right fun _ => not_congr hcurrent
  case all =>
    refine ⟨{ session with memo := (session.memo.compileAll (w.storeOf session)).2 }, ?_,
      hkeeps.cached_compileAll hs⟩
    rw [step, perform, hsession]
    exact List.getElem?_set_self hil

/-- A template that another one includes is compiled, another session loads one more, and the first
is compiled again, in a period of its own. -/
theorem nodup_resolved_of_reachable_include :
    let source := "<templates><template id=\"a\"><include template=\"b\"/></template>" ++
      "<template id=\"b\">x</template></templates>"
    let more := "<template id=\"c\">y</template>"
    let calls : List (Nat × Operation) :=
      [(0, .load "f" source), (0, .compile "b"), (0, .share {}), (1, .load "g" more),
        (0, .compile "b")]
    let w := (Workspace.start {}).run calls
    let p := (Workspace.start {}).periodOf 0 {} calls
    p = ⟨false, ["b"], 1⟩ ∧ p.resolved.Nodup ∧
      ∃ session, w.sessions[0]? = some session ∧ session.memo.stats = ⟨2, 0, 2, 1⟩ ∧
        (stored session.memo.outcomes).Perm p.resolved ∧
        (∃ c, w.answer 0 (.compile "a") = .outcome (.ok c)) ∧
        ∀ x, x ∈ resolvedIn (w.perform 0 (.compile "a")).2.notices ↔
          (w.storeOf session).graph.Reaches "a" x ∧ x ∉ p.current := by
  intro source more calls w p
  have hperiod : p = ⟨false, ["b"], 1⟩ := by
    subst p calls source more
    cbv
  have hrun : ∃ ts ts' s session other c, readTemplates true "f" source = .ok ts ∧
      readTemplates true "g" more = .ok ts' ∧ w = ⟨[s], [session, other]⟩ ∧
      s.templates = ts ++ ts' ∧ session.store = 0 ∧ session.memo.stats = ⟨2, 0, 2, 1⟩ ∧
      answer ⟨[s], [session, other]⟩ 0 (.compile "a") = .outcome (.ok c) := by
    refine ⟨?ts, ?ts', ?s, ?session, ?other, ?c, ?first, ?second, ?run, ?templates, ?store, ?stats,
      ?answer⟩
    case first => subst source; cbv; rfl
    case second => subst more; cbv; rfl
    case run => subst w calls source more; cbv; rfl
    case templates => rfl
    case store => rfl
    case stats => rfl
    case answer => cbv; rfl
  obtain ⟨ts, ts', s, session, other, c, hts, hts', hrun, htemplates, hstore, hstats, hc⟩ := hrun
  have hreachable : (Workspace.start {}).Reachable := ⟨{}, [], rfl⟩
  obtain ⟨session', hsession, ⟨hnodup, hperm, -, -⟩, -, -, hresolved, -⟩ :=
    nodup_resolved_of_reachable (i := 0) hreachable rfl rfl calls
  have hsession : w.sessions[0]? = some session' := hsession
  obtain rfl : session' = session := by
    rw [hrun] at hsession
    exact (Option.some.inj hsession).symm
  have hstoreOf : w.storeOf session' = s := by rw [hrun, storeOf, hstore]; rfl
  rw [← hrun] at hc
  refine ⟨hperiod, hnodup, session', hsession, hstats, hperm, ⟨c, hc⟩,
    hresolved "a" c hc fun t ht _ => ?_⟩
  have ht : t ∈ (w.storeOf session').templates := ht
  rw [hstoreOf, htemplates] at ht
  rcases List.mem_append.mp ht with ht | ht
  · exact ⟨true, "f", source, ts, hts, ht⟩
  · exact ⟨true, "g", more, ts', hts', ht⟩

end

end Workspace

end MarkupTemplates
