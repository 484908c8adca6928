import MarkupTemplates.Compile.Memo
import MarkupTemplates.Markup.Printer
import MarkupTemplates.Message
import MarkupTemplates.Session.Load

/-!
# Sessions

A session works on a store with settings and a memo of its own.  A `Workspace` holds stores and the
sessions that work on them: several sessions may share a store, and `fork` gives a session a copy of
it.  `render` is what a single session on a single source comes to.
-/

namespace MarkupTemplates

/-- A session on one of the stores of a workspace. -/
structure Session where
  /-- The settings. -/
  settings : Settings
  /-- The position of its store in the workspace. -/
  store : Nat
  /-- The outcomes known. -/
  memo : Memo

/-- What a memo has done so far. -/
structure MemoStats where
  /-- The number of compilations. -/
  resolutions : Nat
  /-- The number of outcomes that were asked for again. -/
  hits : Nat
  /-- The generation of the store that the outcomes are for. -/
  generation : Nat
  /-- The number of outcomes known. -/
  cached : Nat
deriving DecidableEq, Repr

/-- What a memo has done so far. -/
def Memo.stats (m : Memo) : MemoStats :=
  ⟨m.resolutions, m.hits, m.store.generation, m.outcomes.length⟩

/-- Stores and the sessions on them. -/
structure Workspace where
  /-- The stores. -/
  stores : List Store
  /-- The sessions, in the order in which they began. -/
  sessions : List Session

namespace Workspace

/-- The workspace with one session on an empty store. -/
def start (settings : Settings) : Workspace :=
  ⟨[.empty], [⟨settings, 0, { store := .empty }⟩]⟩

/-- The store of a session. -/
def storeOf (w : Workspace) (session : Session) : Store := w.stores.getD session.store .empty

/-- The workspace with the store of a session changed. -/
def setStore (w : Workspace) (session : Session) (s : Store) : Workspace :=
  { w with stores := w.stores.set session.store s }

/-- The workspace with the memo of session `i` changed. -/
def setMemo (w : Workspace) (i : Nat) (session : Session) (m : Memo) : Workspace :=
  { w with sessions := w.sessions.set i { session with memo := m } }

/-- The workspace with one more session. -/
def addSession (w : Workspace) (session : Session) : Workspace :=
  { w with sessions := w.sessions ++ [session] }

/-! ### Storing -/

/-- Loads a source into the store of a session. -/
def load (w : Workspace) (session : Session) (name source : String) :
    Except LoadError (Workspace × Noted (List Handle)) :=
  ((w.storeOf session).load session.settings.minify name source).map fun (s, handles) =>
    (w.setStore session s, handles)

/-- Registers a batch of templates with the store of a session. -/
def registerAll (w : Workspace) (session : Session) (ts : List Template) :
    Except StoreError (Workspace × Noted (List Handle)) :=
  ((w.storeOf session).registerAll ts).map fun (s, handles) => (w.setStore session s, handles)

/-! ### Compiling -/

/-- The outcome of an id for session `i`. -/
def compile (w : Workspace) (i : Nat) (session : Session) (id : String) :
    Workspace × Noted Outcome :=
  let (outcome, m) := session.memo.compile (w.storeOf session) id
  (w.setMemo i session m, outcome)

/-- The outcomes of all ids for session `i`. -/
def compileAll (w : Workspace) (i : Nat) (session : Session) :
    Workspace × Noted (List (String × Outcome)) :=
  let (outcomes, m) := session.memo.compileAll (w.storeOf session)
  (w.setMemo i session m, outcomes)

/-- Makes session `i` forget its outcomes. -/
def invalidate (w : Workspace) (i : Nat) (session : Session) : Workspace × Noted Unit :=
  let m := session.memo.invalidate (w.storeOf session)
  (w.setMemo i session m.value, ⟨(), m.notices⟩)

/-- The messages in the store of a session. -/
def messages (w : Workspace) (session : Session) : Except SettingsError (List Message) :=
  (MessageRule.ofSettings session.settings).map (w.storeOf session).messages

/-! ### Beginning sessions -/

/-- Begins a session with the settings of another one on a copy of its store. -/
def fork (w : Workspace) (session : Session) : Workspace :=
  let s := w.storeOf session
  addSession { w with stores := w.stores ++ [s] }
    ⟨session.settings, w.stores.length, { store := s }⟩

/-- Begins a session on the store of another one. -/
def share (w : Workspace) (session : Session) (settings : Settings) : Workspace :=
  w.addSession ⟨settings, session.store, { store := w.storeOf session }⟩

end Workspace

/-- Why a source has no markup for an id. -/
inductive RenderError where
  /-- The source cannot be loaded. -/
  | load (error : LoadError)
  /-- The id cannot be compiled. -/
  | resolution (error : ResolutionError)
deriving DecidableEq, Repr

/-- The error in words. -/
def RenderError.message : RenderError → String
  | .load error => error.message
  | .resolution error => "resolution error: " ++ error.message

/-- The markup of an id of a source. -/
def render (settings : Settings) (source id : String) : Except RenderError String := do
  let (s, _) ← (Store.empty.load settings.minify memorySource source).mapError .load
  let (outcome, _) := ({ store := s } : Memo).compile s id
  let compiled ← outcome.value.mapError .resolution
  return Markup.markup compiled.tree

end MarkupTemplates
