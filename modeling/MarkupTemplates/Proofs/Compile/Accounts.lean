import MarkupTemplates.Proofs.Compile.Memory
import MarkupTemplates.Proofs.Compile.Needed

/-!
# What a compilation resolves

A compilation *resolves* an id when it puts the id together, and gives notice of it.  Each
resolution is counted, and stores the outcome of its id (`Progress.Resolves`); an id whose outcome is
stored is not resolved again.  So the outcomes of a store stay in order (`Store.Accounts`): they are
right, no id has two, and an id that compiled has with it all that it needs, as far as its includes
are sound.

* `Store.Indexed.settled_compileIn`: a compilation leaves the outcomes in order, and resolves only
  what the id reaches.
* `Store.Settled.mem_iff`: if the id compiles, it resolves all of that, except for what was stored.
-/

namespace MarkupTemplates

open Relation (TransGen)

/-! ### Resolutions -/

/-- The id whose compilation begins with a notice. -/
def Notice.resolving? : Notice → Option String
  | .resolving id => some id
  | _ => none

/-- The ids whose compilations begin in a list of notices, in order. -/
def resolvedIn (notices : List Notice) : List String := notices.filterMap Notice.resolving?

@[simp] theorem resolvedIn_nil : resolvedIn [] = [] := rfl

@[simp] theorem resolvedIn_append (before after : List Notice) :
    resolvedIn (before ++ after) = resolvedIn before ++ resolvedIn after := List.filterMap_append

/-- The ids that outcomes are stored for. -/
def stored (outcomes : List (String × Outcome)) : List String := outcomes.map Prod.fst

/-- An id whose outcome is found is stored. -/
theorem mem_stored_of_lookup {outcomes : List (String × Outcome)} {id : String} {outcome : Outcome}
    (h : outcomes.lookup id = some outcome) : id ∈ stored outcomes := by
  obtain ⟨before, after, rfl, -⟩ := List.lookup_eq_some_iff.mp h
  simp [stored]

theorem not_mem_stored_of_lookup {outcomes : List (String × Outcome)} {id : String}
    (h : outcomes.lookup id = none) : id ∉ stored outcomes := by
  intro hmem
  obtain ⟨r, hr, rfl⟩ := List.mem_map.mp hmem
  simpa using List.lookup_eq_none_iff.mp h r hr

namespace Progress

/-- Between two points of a compilation the ids in `new` were resolved, in this order. -/
structure Resolves (p q : Progress) (new : List String) : Prop where
  /-- There is a notice for each of them. -/
  notices : resolvedIn q.notices = resolvedIn p.notices ++ new
  /-- Each of them is counted. -/
  resolutions : q.resolutions = p.resolutions + new.length
  /-- The outcome of each of them is stored. -/
  perm : (stored q.outcomes).Perm (new ++ stored p.outcomes)

variable {p q r : Progress} {new later : List String} {id : String}

theorem resolves_refl (p : Progress) : p.Resolves p [] := ⟨by simp, by simp, .refl _⟩

theorem resolves_hit (p : Progress) : p.Resolves p.hit [] :=
  ⟨by simp [hit], by simp [hit], .refl _⟩

/-- What is resolved in two goes is resolved in one. -/
theorem Resolves.trans (h : p.Resolves q new) (h' : q.Resolves r later) :
    p.Resolves r (new ++ later) where
  notices := by rw [h'.notices, h.notices, List.append_assoc]
  resolutions := by rw [h'.resolutions, h.resolutions, List.length_append, Nat.add_assoc]
  perm := by
    have hperm := h'.perm.trans (h.perm.append_left later)
    rw [← List.append_assoc] at hperm
    exact hperm.trans (List.perm_append_comm.append_right _)

/-- What an id is put together from is resolved between the beginning and the end of its own
resolution. -/
theorem Resolves.finish (h : (p.begin id).Resolves q new) (outcome : Outcome) :
    p.Resolves (q.finish id outcome) (id :: new) where
  notices := by
    have hend : resolvedIn [noticeOf id outcome] = [] := by cases outcome <;> rfl
    have hbegin : resolvedIn (p.begin id).notices = resolvedIn p.notices ++ [id] :=
      resolvedIn_append _ _
    rw [Progress.finish, resolvedIn_append, hend, List.append_nil, h.notices, hbegin,
      List.append_assoc]
    rfl
  resolutions := by
    have hbegin : (p.begin id).resolutions = p.resolutions + 1 := rfl
    have hend : (q.finish id outcome).resolutions = q.resolutions := rfl
    rw [hend, h.resolutions, hbegin, List.length_cons]
    omega
  perm := h.perm.cons id

end Progress

/-! ### Outcomes in order -/

namespace Store

/-- The outcomes of a store are in order. -/
structure Accounts (s : Store) (outcomes : List (String × Outcome)) : Prop where
  /-- They are the outcomes of the store. -/
  remembers : s.Remembers outcomes
  /-- No id has two. -/
  nodup : (stored outcomes).Nodup
  /-- The store knows the ids. -/
  knows : ∀ id ∈ stored outcomes, s.knows id = true
  /-- An id that compiled has with it all that it needs, if its includes are sound. -/
  closed : ∀ id ∈ stored outcomes, ∀ c, s.resolve id = .ok c → s.SoundAt id →
    ∀ d, s.graph.Needs id d → d ∈ stored outcomes

theorem accounts_nil (s : Store) : s.Accounts [] :=
  ⟨s.remembers_nil, List.nodup_nil, nofun, nofun⟩

variable {s : Store} {outcomes : List (String × Outcome)} {id : String}

/-- An id may be added to the outcomes if it is new and what it needs is there already. -/
theorem Accounts.cons (h : s.Accounts outcomes) (hk : s.knows id = true)
    (hid : id ∉ stored outcomes)
    (hneeds : ∀ c, s.resolve id = .ok c → s.SoundAt id →
      ∀ d, s.graph.Needs id d → d ∈ stored outcomes) :
    s.Accounts ((id, s.resolve id) :: outcomes) where
  remembers := h.remembers.cons id
  nodup := List.nodup_cons.mpr ⟨hid, h.nodup⟩
  knows := List.forall_mem_cons.mpr ⟨hk, h.knows⟩
  closed := by
    refine List.forall_mem_cons.mpr ⟨fun c hc hs d hd => ?_, fun x hx c hc hs d hd => ?_⟩
    · exact List.mem_cons_of_mem id (hneeds c hc hs d hd)
    · exact List.mem_cons_of_mem id (h.closed x hx c hc hs d hd)

/-- What an id reaches that compiled is stored with it. -/
theorem Accounts.mem_of_reaches (h : s.Accounts outcomes) (hs : s.Indexed)
    (hid : id ∈ stored outcomes) {c : Compiled} (hc : s.resolve id = .ok c)
    (hsound : ∀ x, s.graph.Reaches id x → s.SoundAt x) {x : String} (hx : s.graph.Reaches id x) :
    x ∈ stored outcomes := by
  induction hx with
  | refl => exact hid
  | @tail y x hy hyx ih =>
      obtain ⟨cy, hcy⟩ := hs.resolve_of_reaches hsound hc hy
      exact h.closed y ih cy hcy (hsound y hy) x hyx

/-- What compiling `id` does between two points, if the outcomes were in order: it resolves the ids
in `new`. -/
structure Settled (s : Store) (id : String) (p q : Progress) (new : List String) : Prop where
  /-- The ids are resolved. -/
  resolves : p.Resolves q new
  /-- The id reaches all of them. -/
  reaches : ∀ x ∈ new, s.graph.Reaches id x
  /-- The outcomes are in order. -/
  accounts : s.Accounts q.outcomes
  /-- The outcome of the id is stored if the store knows the id. -/
  mem : s.knows id = true → id ∈ stored q.outcomes

/-- **A compilation that succeeds resolves exactly what the id reaches and was not stored.** -/
theorem Settled.mem_iff {p q : Progress} {new : List String} (h : s.Settled id p q new)
    (hs : s.Indexed) {c : Compiled} (hc : s.resolve id = .ok c)
    (hsound : ∀ x, s.graph.Reaches id x → s.SoundAt x) (x : String) :
    x ∈ new ↔ s.graph.Reaches id x ∧ x ∉ stored p.outcomes := by
  have hnodup : (new ++ stored p.outcomes).Nodup := h.resolves.perm.nodup_iff.mp h.accounts.nodup
  constructor
  · intro hx
    exact ⟨h.reaches x hx, fun hstored => (List.nodup_append.mp hnodup).2.2 x hx x hstored rfl⟩
  · rintro ⟨hx, hnot⟩
    have hid := h.mem (hs.knows_of_resolve hc)
    have hmem := h.resolves.perm.mem_iff.mp (h.accounts.mem_of_reaches hs hid hc hsound hx)
    exact (List.mem_append.mp hmem).resolve_right hnot

/-! ### Compiling -/

/-- A computation that keeps outcomes in order and resolves only ids with a property, and what it
answers if the outcomes stored in the end are among those of `known`. -/
def accounting (s : Store) (B : String → Prop) (known : List String) : Simulation Run Id where
  rel x y := ∀ p : Progress, s.Accounts p.outcomes →
    ∃ r q new, x.run.run p = some (r, q) ∧ p.Resolves q new ∧ (∀ x ∈ new, B x) ∧
      s.Accounts q.outcomes ∧ (stored q.outcomes ⊆ known → y = r)
  answer r := fun p hp => ⟨r, p, [], rfl, p.resolves_refl, nofun, hp, fun _ => rfl⟩
  bind {α β x y f k} h hf := fun p hp => by
    obtain ⟨r, q, new, hr, hnew, hB, hq, hy⟩ := h p hp
    have hrun : (x >>= f).run.run p = (ExceptT.bindCont f r).run q := by
      change (x.run >>= ExceptT.bindCont f).run p = _
      rw [StateT.run_bind, hr]; rfl
    cases r with
    | error e => exact ⟨.error e, q, new, hrun, hnew, hB, hq, fun hsub => by rw [hy hsub]; rfl⟩
    | ok a =>
        obtain ⟨r', q', later, hr', hlater, hB', hq', hy'⟩ := hf a q hq
        refine ⟨r', q', new ++ later, hrun.trans hr', hnew.trans hlater, fun x hx => ?_, hq',
          fun hsub => ?_⟩
        · exact (List.mem_append.mp hx).elim (hB x) (hB' x)
        · -- nothing is forgotten on the way
          have hmono : stored q.outcomes ⊆ stored q'.outcomes := fun x hx =>
            hlater.perm.mem_iff.mpr (List.mem_append_right later hx)
          rw [hy fun x hx => hsub (hmono hx)]
          exact hy' hsub

/-- The outcome of an id, if it is one of a list. -/
def resolveAmong (s : Store) (known : List String) (id : String) :
    ExceptT ResolutionError Id Compiled :=
  if id ∈ known then s.resolve id else .error (.notFound id)

variable (hs : s.Indexed)

include hs

/-- Among all ids of the store an id resolves to what it resolves to. -/
theorem Indexed.resolveAmong_eq {known : List String}
    (h : s.knows id = true → id ∈ known) : s.resolveAmong known id = s.resolve id := by
  rw [resolveAmong]
  split
  · rfl
  · rename_i hnot
    rw [hs.solves_resolve id, if_neg fun hk => hnot (h hk)]

/-- An assembly keeps the outcomes in order if compiling what the id needs does.  If it succeeds,
all that the id needs is stored. -/
theorem Indexed.accounts_assemble {f : String → ExceptT ResolutionError Run Compiled}
    (hf : s.graph.Sound id → ∀ d, s.graph.Needs id d → ∀ p : Progress, s.Accounts p.outcomes →
      ∃ q new, (f d).run.run p = some (s.resolve d, q) ∧ s.Settled d p q new)
    {p : Progress} (hp : s.Accounts p.outcomes) :
    ∃ r q new, (assemble s f id).run.run p = some (r, q) ∧ p.Resolves q new ∧
      (∀ x ∈ new, s.graph.Sound id ∧ TransGen s.graph.Needs id x) ∧ s.Accounts q.outcomes ∧
      ∀ c, r = .ok c → s.SoundAt id → ∀ d, s.graph.Needs id d → d ∈ stored q.outcomes := by
  have hsim : ∀ known, (s.accounting (fun x => s.graph.Sound id ∧ TransGen s.graph.Needs id x)
      known).rel (assemble s f id) (assemble s (s.resolveAmong known) id) := by
    refine fun known => Simulation.assemble _ hs fun hsound d hd p hp => ?_
    obtain ⟨q, new, hrun, hq⟩ := hf hsound d hd p hp
    refine ⟨s.resolve d, q, new, hrun, hq.resolves, fun x hx => ?_, hq.accounts, fun hsub => ?_⟩
    · exact ⟨hsound, .head' hd (hq.reaches x hx)⟩
    · exact hs.resolveAmong_eq fun hk => hsub (hq.mem hk)
  obtain ⟨r, q, new, hrun, hnew, hB, hq, -⟩ := hsim [] p hp
  refine ⟨r, q, new, hrun, hnew, hB, hq, fun c hc hsound d hd => ?_⟩
  -- the same run, seen with the outcomes that are stored in the end
  obtain ⟨r', q', -, hrun', -, -, -, heq⟩ := hsim (stored q.outcomes) p hp
  rw [hrun] at hrun'
  cases hrun'
  obtain ⟨c', hc'⟩ := hs.answered_of_assemble hsound ((heq (List.Subset.refl _)).trans hc) hd
  rw [resolveAmong] at hc'
  split at hc'
  · assumption
  · cases hc'

/-- **A compilation keeps the outcomes in order**, and resolves only what the id reaches. -/
theorem Indexed.settled_compileIn (id : String) :
    ∀ busy : List String, s.graph.LeadsTo busy id → ∀ p : Progress, s.Accounts p.outcomes →
      ∃ q new, (compileIn s busy id).run p = some (s.resolve id, q) ∧ s.Settled id p q new := by
  induction id using s.graph.dependency_induction with
  | step id ih =>
      intro busy hbusy p hp
      obtain ⟨q, hrun, -⟩ := hs.answers_compileIn id busy hbusy p hp.remembers
      refine ⟨q, ?_⟩
      by_cases hk : s.knows id = true
      · cases hl : p.outcomes.lookup id with
        | some outcome =>
            have hhit := hrun
            rw [compileIn_of_lookup hk hl] at hhit
            obtain ⟨-, rfl⟩ := Prod.mk.inj (Option.some.inj hhit)
            exact ⟨[], hrun, p.resolves_hit, nofun, hp, fun _ => mem_stored_of_lookup hl⟩
        | none =>
            obtain ⟨r, q', new, hassemble, hnew, hB, hq', hneeds⟩ :=
              hs.accounts_assemble (p := p.begin id)
                (f := fun d => ExceptT.mk (compileIn s (id :: busy) d))
                (fun hsound d hd => ih hsound d hd (id :: busy) (hbusy.cons hsound hd)) hp
            have hfinish := hrun
            rw [compileIn_of_assemble hk hl hbusy.not_mem hassemble] at hfinish
            obtain ⟨rfl, rfl⟩ := Prod.mk.inj (Option.some.inj hfinish)
            -- the id is not resolved on the way to itself
            have hnot : id ∉ stored q'.outcomes := fun hmem => by
              rcases List.mem_append.mp (hnew.perm.mem_iff.mp hmem) with hmem | hmem
              · exact ((hB id hmem).1 id .refl).2 (hB id hmem).2
              · exact not_mem_stored_of_lookup hl hmem
            refine ⟨id :: new, hrun, hnew.finish _, ?_, hq'.cons hk hnot hneeds,
              fun _ => List.mem_cons_self⟩
            exact List.forall_mem_cons.mpr ⟨.refl, fun x hx => (hB x hx).2.to_reflTransGen⟩
      · have hsame := hrun
        rw [compileIn_of_unknown hk] at hsame
        obtain ⟨-, rfl⟩ := Prod.mk.inj (Option.some.inj hsame)
        exact ⟨[], hrun, p.resolves_refl, nofun, hp, fun hk' => absurd hk' hk⟩

end Store

end MarkupTemplates
