import MarkupTemplates.Compile.Assemble

/-!
# Compiling with a memory

A `Memo` remembers the outcome of each id it has compiled, for one state of a store.  `compileIn`
compiles an id and, on the way, those it depends on; an id that is being compiled is *busy*, and its
outcome cannot be had before it is finished.  Were a busy id asked for, there would be no answer at
all: that is the answer `none` of a `Run`.  The recursion ends since each level makes one more id of
the store busy (`Store.idle_lt`).
-/

namespace MarkupTemplates

/-- What a compilation has done so far. -/
structure Progress where
  /-- The outcomes known, the latest first. -/
  outcomes : List (String × Outcome) := []
  /-- The number of compilations. -/
  resolutions : Nat := 0
  /-- The number of outcomes that were asked for again. -/
  hits : Nat := 0
  /-- The notices given, in order. -/
  notices : List Notice := []

namespace Progress

/-- One outcome more was known already. -/
def hit (p : Progress) : Progress := { p with hits := p.hits + 1 }

/-- A compilation begins. -/
def begin (id : String) (p : Progress) : Progress :=
  { p with resolutions := p.resolutions + 1, notices := p.notices ++ [.resolving id] }

/-- The notice for an outcome. -/
def noticeOf (id : String) : Outcome → Notice
  | .ok compiled => .compiled id compiled.contributors.length
  | .error e => .failed id e

/-- A compilation is finished. -/
def finish (id : String) (outcome : Outcome) (p : Progress) : Progress :=
  { p with
    outcomes := (id, outcome) :: p.outcomes, notices := p.notices ++ [noticeOf id outcome] }

end Progress

/-- A computation that compiles; it has no answer if it asks for an id that is busy. -/
abbrev Run := StateT Progress Option

/-- Whether a store has a definition or layers of an id. -/
def Store.knows (s : Store) (id : String) : Bool := (s.slot? id).isSome

/-- The number of ids that are not busy. -/
def Store.idle (s : Store) (busy : List String) : Nat := s.graph.offWay busy

theorem Store.idle_lt {s : Store} {id : String} {busy : List String} (hk : s.knows id = true)
    (hb : id ∉ busy) : s.idle (id :: busy) < s.idle busy := by
  obtain ⟨slot, hslot⟩ := Option.isSome_iff_exists.mp hk
  have hmem := List.mem_of_find?_eq_some hslot
  have hid : slot.id = id := by simpa using List.find?_some hslot
  subst hid
  refine Graph.length_filter_lt ?_ ⟨⟨slot.id, s.dependencies slot.id, slot.definition?.isSome⟩, ?_,
    by simpa using hb, by simp⟩
  · intro a ha
    simp only [List.contains_cons, Bool.not_eq_true', Bool.or_eq_false_iff] at ha
    rw [ha.2]; rfl
  · exact List.mem_map.mpr ⟨slot, hmem, rfl⟩

/-- The outcome of an id of a store, remembered or compiled now, while the ids in `busy` are being
compiled. -/
def compileIn (s : Store) (busy : List String) (id : String) : Run Outcome :=
  if _hk : s.knows id = true then do
    match (← get).outcomes.lookup id with
    | some outcome =>
      modify Progress.hit
      return outcome
    | none =>
      if _hb : id ∈ busy then failure
      else do
        modify (Progress.begin id)
        let outcome ←
          (assemble s (fun target => ExceptT.mk (compileIn s (id :: busy) target)) id).run
        modify (Progress.finish id outcome)
        return outcome
  else return .error (.notFound id)
termination_by s.idle busy
decreasing_by exact Store.idle_lt _hk _hb

/-- The outcomes known for one state of a store. -/
structure Memo where
  /-- The state of the store that the outcomes are for. -/
  store : Store
  /-- The outcomes known, the latest first. -/
  outcomes : List (String × Outcome) := []
  /-- The number of compilations so far, for whichever state. -/
  resolutions : Nat := 0
  /-- The number of outcomes asked for again so far, for whichever state. -/
  hits : Nat := 0

namespace Memo

/-- The memo that forgets its outcomes and goes over to another state of the store. -/
def reset (m : Memo) (s : Store) : Memo := { m with store := s, outcomes := [] }

/-- The memo that goes over to the current state of the store if it has moved on. -/
def refresh (m : Memo) (current : Store) : Noted Memo :=
  if m.store.generation < current.generation then
    ⟨m.reset current, [.outdated m.store.generation current.generation]⟩
  else ⟨m, []⟩

/-- The memo that forgets all outcomes. -/
def invalidate (m : Memo) (current : Store) : Noted Memo :=
  ⟨m.reset current, [.invalidated current.generation]⟩

/-- The outcome of an id for the state that the memo is for, and the memo after it. -/
def compileHere (m : Memo) (id : String) : Noted Outcome × Memo :=
  match (compileIn m.store [] id).run ⟨m.outcomes, m.resolutions, m.hits, []⟩ with
  | some (outcome, p) =>
    (⟨outcome, p.notices⟩,
      { m with outcomes := p.outcomes, resolutions := p.resolutions, hits := p.hits })
  | none => (⟨.error (.cycle [id, id]), []⟩, m)

/-- The outcome of an id for the current state of the store, and the memo after it. -/
def compile (m : Memo) (current : Store) (id : String) : Noted Outcome × Memo :=
  let fresh := m.refresh current
  let (outcome, m) := fresh.value.compileHere id
  (⟨outcome.value, fresh.notices ++ outcome.notices⟩, m)

/-- The outcomes of a list of ids, one after the other. -/
def compileEach (m : Memo) (current : Store) : List String → Noted (List (String × Outcome)) × Memo
  | [] => (⟨[], []⟩, m)
  | id :: ids =>
    let (outcome, m) := m.compile current id
    let (rest, m) := compileEach m current ids
    (⟨(id, outcome.value) :: rest.value, outcome.notices ++ rest.notices⟩, m)

/-- The order in which all ids are compiled: each after those it depends on, or, if there is no such
order, the one in which they first came. -/
def order (current : Store) : Noted (List String) :=
  match current.graph.compileOrder with
  | .ok ids => ⟨ids, []⟩
  | .error e => ⟨current.ids, [.unordered e]⟩

/-- The outcomes of all ids. -/
def compileAll (m : Memo) (current : Store) : Noted (List (String × Outcome)) × Memo :=
  let fresh := m.refresh current
  let ids := order current
  let (outcomes, m) := fresh.value.compileEach current ids.value
  (⟨outcomes.value, fresh.notices ++ ids.notices ++ outcomes.notices⟩, m)

end Memo

end MarkupTemplates
