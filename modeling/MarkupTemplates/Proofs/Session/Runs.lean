import MarkupTemplates.Proofs.Compile.Memory

/-!
# Runs of sessions

An `Operation` is one thing a session can be asked for, and `Workspace.run` performs a list of them,
each for one of the sessions there are.  `Workspace.step_cases` lists once what an operation can do
to a workspace: nothing, change the store of the session, change the memo of the session, or begin a
session.  From it follow

* `Coherent.run`: all stores stay registered, and the memo of each session serves its store, so that
  every reachable workspace is coherent;
* `Coherent.run_keeps`: a run that registers nothing with a store leaves that store as it was.
-/

namespace MarkupTemplates

/-- What a session can be asked for. -/
inductive Operation where
  /-- To register a template. -/
  | register (t : Template)
  /-- To register a batch of templates. -/
  | registerAll (ts : List Template)
  /-- To load a source under a name. -/
  | load (name source : String)
  /-- To compile an id. -/
  | compile (id : String)
  /-- To compile all ids. -/
  | compileAll
  /-- For the order in which all ids can be compiled. -/
  | compileOrder
  /-- To forget all outcomes. -/
  | invalidate
  /-- To begin a session on a copy of its store. -/
  | fork
  /-- To begin a session on its store. -/
  | share (settings : Settings)
  /-- To begin a session on a new store. -/
  | start (settings : Settings)

/-- Whether an operation may add templates to a store. -/
def Operation.registers : Operation → Bool
  | .register _ | .registerAll _ | .load _ _ => true
  | _ => false

/-- What a session answers. -/
inductive Answer where
  /-- The receipts for what was registered. -/
  | handles (handles : List Handle)
  /-- Why a batch was refused. -/
  | refused (error : StoreError)
  /-- Why a source was not loaded. -/
  | notLoaded (error : LoadError)
  /-- The outcome of an id. -/
  | outcome (outcome : Outcome)
  /-- The outcomes of all ids. -/
  | outcomes (outcomes : List (String × Outcome))
  /-- The order of all ids, or why there is none. -/
  | order (ids : Except ResolutionError (List String))
  /-- It is done. -/
  | done
  /-- There is no such session. -/
  | noSession

/-- The order in which all ids can be compiled, and the memo after the question. -/
def Memo.compileOrder (m : Memo) (current : Store) :
    Noted (Except ResolutionError (List String)) × Memo :=
  let fresh := m.refresh current
  (⟨fresh.value.store.graph.compileOrder, fresh.notices⟩, fresh.value)

namespace Workspace

/-- Begins a session on a new store. -/
def begin (w : Workspace) (settings : Settings) : Workspace :=
  addSession { w with stores := w.stores ++ [.empty] }
    ⟨settings, w.stores.length, { store := .empty }⟩

/-- The answer to an attempt to register; a failed one changes nothing. -/
def registering {ε : Type} (w : Workspace) (refused : ε → Answer) :
    Except ε (Workspace × Noted (List Handle)) → Workspace × Noted Answer
  | .ok (after, handles) => (after, ⟨.handles handles.value, handles.notices⟩)
  | .error e => (w, ⟨refused e, []⟩)

/-- Performs an operation for session `i`. -/
def perform (w : Workspace) (i : Nat) (op : Operation) : Workspace × Noted Answer :=
  match w.sessions[i]? with
  | none => (w, ⟨.noSession, []⟩)
  | some session =>
    match op with
    | .register t => w.registering .refused (w.registerAll session [t])
    | .registerAll ts => w.registering .refused (w.registerAll session ts)
    | .load name source => w.registering .notLoaded (w.load session name source)
    | .compile id =>
      let (w, outcome) := w.compile i session id
      (w, ⟨.outcome outcome.value, outcome.notices⟩)
    | .compileAll =>
      let (w, outcomes) := w.compileAll i session
      (w, ⟨.outcomes outcomes.value, outcomes.notices⟩)
    | .compileOrder =>
      let (ids, m) := session.memo.compileOrder (w.storeOf session)
      (w.setMemo i session m, ⟨.order ids.value, ids.notices⟩)
    | .invalidate =>
      let (w, done) := w.invalidate i session
      (w, ⟨.done, done.notices⟩)
    | .fork => (w.fork session, ⟨.done, []⟩)
    | .share settings => (w.share session settings, ⟨.done, []⟩)
    | .start settings => (w.begin settings, ⟨.done, []⟩)

/-- The answer of session `i` to an operation. -/
def answer (w : Workspace) (i : Nat) (op : Operation) : Answer := (w.perform i op).2.value

/-- The workspace after an operation for session `i`. -/
def step (w : Workspace) (i : Nat) (op : Operation) : Workspace := (w.perform i op).1

/-- The workspace after a list of operations, each for the session at the position given. -/
def run (w : Workspace) : List (Nat × Operation) → Workspace
  | [] => w
  | (i, op) :: rest => run (w.step i op) rest

/-- A run that began with a single session on an empty store leads to the workspace. -/
def Reachable (w : Workspace) : Prop :=
  ∃ (settings : Settings) (calls : List (Nat × Operation)), (start settings).run calls = w

/-! ### What an operation can do -/

/-- What an operation can do to a workspace. -/
inductive Change (w : Workspace) (i : Nat) (op : Operation) : Workspace → Prop where
  /-- Nothing. -/
  | none : Change w i op w
  /-- It registers a batch with the store of the session. -/
  | store {session : Session} {ts : List Template} {after : Store} {handles : Noted (List Handle)} :
      w.sessions[i]? = some session → op.registers = true →
      (w.storeOf session).registerAll ts = .ok (after, handles) →
      Change w i op (w.setStore session after)
  /-- It leaves the session with a memo that serves the store as well as the old one. -/
  | memo {session : Session} {m : Memo} :
      w.sessions[i]? = some session →
      ((w.storeOf session).Indexed → session.memo.Serves (w.storeOf session) →
        m.Serves (w.storeOf session)) →
      Change w i op (w.setMemo i session m)
  /-- It begins a session on the store of the session. -/
  | share {session : Session} (settings : Settings) :
      w.sessions[i]? = some session → Change w i op (w.share session settings)
  /-- It begins a session on a registered store that is added to the others. -/
  | begin {s : Store} (settings : Settings) :
      ((∀ s ∈ w.stores, s.Registered) → s.Registered) →
      Change w i op (addSession { w with stores := w.stores ++ [s] }
        ⟨settings, w.stores.length, { store := s }⟩)

theorem registered_getD {stores : List Store} (h : ∀ s ∈ stores, s.Registered) (k : Nat) :
    (stores.getD k .empty).Registered := by
  rw [List.getD_eq_getElem?_getD]
  cases hk : stores[k]? with
  | none => exact .empty
  | some s => exact h s (List.mem_of_getElem? hk)

/-- **An operation does one of five things to a workspace.** -/
theorem step_cases (w : Workspace) (i : Nat) (op : Operation) : Change w i op (w.step i op) := by
  cases hi : w.sessions[i]? with
  | none =>
      have : w.step i op = w := by rw [step, perform, hi]
      rw [this]; exact .none
  | some session =>
      have hreg : ∀ {ts : List Template}, op.registers = true →
          Change w i op (w.registering .refused (w.registerAll session ts)).1 := by
        intro ts hop
        rw [registerAll]
        cases hr : (w.storeOf session).registerAll ts with
        | error e => exact .none
        | ok r => exact .store hi hop hr
      cases op with
      | register t => rw [step, perform, hi]; exact hreg rfl
      | registerAll ts => rw [step, perform, hi]; exact hreg rfl
      | load name source =>
          rw [step, perform, hi]
          simp only [load, Store.load]
          cases readTemplates session.settings.minify name source with
          | error es => exact .none
          | ok ts =>
              cases hr : (w.storeOf session).registerAll ts with
              | error e => simp only [hr]; exact .none
              | ok r => simp only [hr]; exact .store hi rfl hr
      | compile id =>
          rw [step, perform, hi]
          exact .memo hi fun hs h => (h.compile hs id).2
      | compileAll =>
          rw [step, perform, hi]
          exact .memo hi fun hs h => (h.compileAll hs).2
      | compileOrder =>
          rw [step, perform, hi]
          exact .memo hi fun _ h => h.refresh.1
      | invalidate =>
          rw [step, perform, hi]
          exact .memo hi fun _ _ => session.memo.serves_reset _
      | fork =>
          rw [step, perform, hi]
          exact .begin _ fun h => registered_getD h _
      | share settings => rw [step, perform, hi]; exact .share settings hi
      | start settings => rw [step, perform, hi]; exact .begin settings fun _ => .empty

/-! ### Coherence -/

/-- All stores are registered, each session has one of them, and its memo serves it. -/
structure Coherent (w : Workspace) : Prop where
  /-- The stores are registered. -/
  registered : ∀ s ∈ w.stores, s.Registered
  /-- The sessions have stores. -/
  store_lt : ∀ session ∈ w.sessions, session.store < w.stores.length
  /-- The memos serve the stores. -/
  serves : ∀ session ∈ w.sessions, session.memo.Serves (w.storeOf session)

/-- Sessions that share a store all see it changed. -/
theorem storeOf_setStore {w : Workspace} {session other : Session} (s : Store)
    (hlt : session.store < w.stores.length) (h : session.store = other.store) :
    (w.setStore session s).storeOf other = s := by
  simp [setStore, storeOf, ← h, hlt]

/-- The store of a session is left alone when another store changes. -/
theorem storeOf_setStore_of_ne {w : Workspace} {session other : Session} (s : Store)
    (h : session.store ≠ other.store) : (w.setStore session s).storeOf other = w.storeOf other := by
  simp [setStore, storeOf, h]

theorem storeOf_append (w : Workspace) (extra : List Store) (sessions : List Session)
    {session : Session} (h : session.store < w.stores.length) :
    storeOf ⟨w.stores ++ extra, sessions⟩ session = w.storeOf session := by
  simp only [storeOf, List.getD_eq_getElem?_getD, List.getElem?_append_left h]

/-- A workspace begins coherent, with one empty store and a memo in which nothing is remembered. -/
theorem coherent_start (settings : Settings) : (start settings).Coherent where
  registered s hs := by rw [List.mem_singleton.mp hs]; exact .empty
  store_lt session hs := by rw [List.mem_singleton.mp hs]; exact Nat.one_pos
  serves session hs := by rw [List.mem_singleton.mp hs]; exact Memo.serves_new _

namespace Coherent

variable {w : Workspace} (h : w.Coherent)

include h

theorem registered_storeOf (session : Session) : (w.storeOf session).Registered :=
  registered_getD h.registered session.store

theorem indexed_storeOf (session : Session) : (w.storeOf session).Indexed :=
  (h.registered_storeOf session).indexed

/-- A registration keeps a workspace coherent: a memo for the store as it was is behind the new
generation, and so it goes on serving. -/
theorem setStore {session : Session} {ts : List Template} {after : Store}
    {handles : Noted (List Handle)} (hmem : session ∈ w.sessions)
    (hreg : (w.storeOf session).registerAll ts = .ok (after, handles)) :
    (w.setStore session after).Coherent where
  registered s hs := by
    rcases List.mem_or_eq_of_mem_set hs with hs | rfl
    · exact h.registered s hs
    · exact .batch (h.registered_storeOf session) hreg
  store_lt other hother := by
    simp only [Workspace.setStore, List.length_set]; exact h.store_lt other hother
  serves other hother := by
    -- a memo on the same store may be behind from now on, any other is as good as before
    have hserves := h.serves other hother
    by_cases hk : session.store = other.store
    · have hbefore : w.storeOf other = w.storeOf session := by simp only [storeOf, hk]
      rw [storeOf_setStore after (h.store_lt session hmem) hk]
      exact (hbefore ▸ hserves).registerAll hreg
    · rw [storeOf_setStore_of_ne after hk]; exact hserves

theorem setMemo {i : Nat} {session : Session} {m : Memo} (hmem : session ∈ w.sessions)
    (hm : m.Serves (w.storeOf session)) : (w.setMemo i session m).Coherent where
  registered := h.registered
  store_lt other hother := by
    rcases List.mem_or_eq_of_mem_set hother with hother | rfl
    · exact h.store_lt other hother
    · exact h.store_lt session hmem
  serves other hother := by
    rcases List.mem_or_eq_of_mem_set hother with hother | rfl
    · exact h.serves other hother
    · exact hm

/-- A session that shares a store begins with a memo of it in which nothing is remembered. -/
theorem share {session : Session} (settings : Settings) (hmem : session ∈ w.sessions) :
    (w.share session settings).Coherent where
  registered := h.registered
  store_lt other hother := by
    rcases List.mem_append.mp hother with hother | hother
    · exact h.store_lt other hother
    · rw [List.mem_singleton.mp hother]; exact h.store_lt session hmem
  serves other hother := by
    rcases List.mem_append.mp hother with hother | hother
    · exact h.serves other hother
    · rw [List.mem_singleton.mp hother]; exact Memo.serves_new _

/-- A session with a store of its own keeps the workspace coherent. -/
theorem begin {s : Store} (settings : Settings) (hs : s.Registered) :
    (addSession { w with stores := w.stores ++ [s] }
      ⟨settings, w.stores.length, { store := s }⟩).Coherent where
  registered t ht := by
    rcases List.mem_append.mp ht with ht | ht
    · exact h.registered t ht
    · rw [List.mem_singleton.mp ht]; exact hs
  store_lt other hother := by
    simp only [addSession, List.length_append, List.length_singleton]
    rcases List.mem_append.mp hother with hother | hother
    · exact Nat.lt_succ_of_lt (h.store_lt other hother)
    · rw [List.mem_singleton.mp hother]; exact Nat.lt_succ_self _
  serves other hother := by
    rcases List.mem_append.mp hother with hother | hother
    · rw [addSession, storeOf_append w [s] _ (h.store_lt other hother)]
      exact h.serves other hother
    · rw [List.mem_singleton.mp hother]
      have : storeOf (addSession { w with stores := w.stores ++ [s] }
          ⟨settings, w.stores.length, { store := s }⟩)
          ⟨settings, w.stores.length, { store := s }⟩ = s := by simp [addSession, storeOf]
      rw [this]; exact Memo.serves_new s

/-- **One operation keeps a workspace coherent**, whether it is accepted or not. -/
theorem step (i : Nat) (op : Operation) : (w.step i op).Coherent := by
  have hc := w.step_cases i op
  generalize w.step i op = after at hc ⊢
  cases hc with
  | none => exact h
  | store hi _ hreg => exact h.setStore (List.mem_of_getElem? hi) hreg
  | memo hi hm =>
      have hmem := List.mem_of_getElem? hi
      exact h.setMemo hmem (hm (h.indexed_storeOf _) (h.serves _ hmem))
  | share settings hi => exact h.share settings (List.mem_of_getElem? hi)
  | begin settings hs => exact h.begin settings (hs h.registered)

/-- **Every run keeps a workspace coherent.** -/
theorem run (calls : List (Nat × Operation)) : (w.run calls).Coherent := by
  induction calls generalizing w with
  | nil => exact h
  | cons c calls ih => exact ih (h.step c.1 c.2)

/-! ### What sessions of a coherent workspace answer -/

variable {i : Nat} {session : Session} (hi : w.sessions[i]? = some session)

include hi

/-- A session answers a compilation with what its store resolves to, whatever it remembers. -/
theorem answer_compile (id : String) :
    w.answer i (.compile id) = .outcome ((w.storeOf session).resolve id) := by
  have hserves := h.serves session (List.mem_of_getElem? hi)
  rw [answer, perform, hi, ← (hserves.compile (h.indexed_storeOf session) id).1]
  rfl

/-- A session answers a compilation of everything with what its store resolves each id to, in the
order of compiling. -/
theorem answer_compileAll :
    w.answer i .compileAll = .outcomes ((Memo.order (w.storeOf session)).value.map fun id =>
      (id, (w.storeOf session).resolve id)) := by
  have hserves := h.serves session (List.mem_of_getElem? hi)
  rw [answer, perform, hi, ← (hserves.compileAll (h.indexed_storeOf session)).1]
  rfl

/-- A session answers with the order of the graph of its store. -/
theorem answer_compileOrder :
    w.answer i .compileOrder = .order (w.storeOf session).graph.compileOrder := by
  have hstore := (h.serves session (List.mem_of_getElem? hi)).refresh.2
  rw [answer, perform, hi]
  simp only [Memo.compileOrder, hstore]

end Coherent

/-- Every workspace that operations lead to is coherent. -/
theorem Reachable.coherent {w : Workspace} (h : w.Reachable) : w.Coherent := by
  obtain ⟨settings, calls, rfl⟩ := h
  exact (coherent_start settings).run calls

/-! ### Stores that are left alone -/

/-- No operation of the list registers anything with the store at position `k`. -/
def Spares (k : Nat) : Workspace → List (Nat × Operation) → Prop
  | _, [] => True
  | w, (i, op) :: rest =>
    (op.registers = true → ∀ session, w.sessions[i]? = some session → session.store ≠ k) ∧
      Spares k (w.step i op) rest

/-- An operation takes no session away, and leaves each session its store, unchanged unless the
operation registers something with it. -/
theorem Coherent.step_keeps {w : Workspace} (h : w.Coherent) {i j : Nat} {op : Operation}
    {session : Session} (hi : w.sessions[i]? = some session)
    (hop : op.registers = true →
      ∀ other, w.sessions[j]? = some other → other.store ≠ session.store) :
    ∃ session', (w.step j op).sessions[i]? = some session' ∧ session'.store = session.store ∧
      (w.step j op).storeOf session' = w.storeOf session := by
  have hlt := h.store_lt session (List.mem_of_getElem? hi)
  have happend : ∀ new : Session, (w.sessions ++ [new])[i]? = some session := fun new => by
    obtain ⟨hil, -⟩ := List.getElem?_eq_some_iff.mp hi
    rw [List.getElem?_append_left hil, hi]
  have hc := w.step_cases j op
  generalize w.step j op = after at hc ⊢
  cases hc with
  | none => exact ⟨session, hi, rfl, rfl⟩
  | store hj hreg _ =>
      exact ⟨session, hi, rfl, storeOf_setStore_of_ne _ (hop hreg _ hj)⟩
  | @memo other m hj _ =>
      by_cases hij : j = i
      · subst hij
        rw [hi] at hj; cases hj
        obtain ⟨hil, -⟩ := List.getElem?_eq_some_iff.mp hi
        exact ⟨{ session with memo := m }, by simp [Workspace.setMemo, hil], rfl, rfl⟩
      · exact ⟨session, by simp [Workspace.setMemo, hij, hi], rfl, rfl⟩
  | share settings hj => exact ⟨session, happend _, rfl, rfl⟩
  | begin settings hs => exact ⟨session, happend _, rfl, storeOf_append w _ _ hlt⟩

/-- **A run that registers nothing with the store of a session leaves it the session's store.** -/
theorem Coherent.run_keeps {w : Workspace} (h : w.Coherent) {i : Nat} {session : Session}
    (hi : w.sessions[i]? = some session) {calls : List (Nat × Operation)}
    (hs : w.Spares session.store calls) :
    ∃ session', (w.run calls).sessions[i]? = some session' ∧
      (w.run calls).storeOf session' = w.storeOf session := by
  induction calls generalizing w session with
  | nil => exact ⟨session, hi, rfl⟩
  | cons c calls ih =>
      obtain ⟨j, op⟩ := c
      obtain ⟨hop, hrest⟩ := hs
      obtain ⟨session₁, hi₁, hk₁, hstore₁⟩ := h.step_keeps hi hop
      obtain ⟨session₂, hi₂, hstore₂⟩ := ih (h.step j op) hi₁ (hk₁ ▸ hrest)
      exact ⟨session₂, hi₂, hstore₂.trans hstore₁⟩

end Workspace

end MarkupTemplates
