import MarkupTemplates.Proofs.Compile.Memory
import MarkupTemplates.Proofs.Dependency.Way

/-!
# Which outcomes a compilation asks for

`compileWithin` compiles an id like `compileIn`, with two differences: nothing stops it from asking
for an id that is being compiled, only the depth of its nesting is limited; and it keeps a list of
its requests.  Nevertheless it does the same as `compileIn` as soon as the limit exceeds the number
of ids, and the ids that wait for a request are always a way from the first of them to the id asked
for (`Store.Indexed.traces_compileIn`).  So each request is for a direct dependency of the id that
asks, and never for an id that waits for it.
-/

namespace MarkupTemplates

/-- A request for the outcome of an id. -/
structure Request where
  /-- The ids whose compilations wait for the request, the one that asks first. -/
  waiting : List String
  /-- The id asked for. -/
  id : String

/-- A computation that compiles and lists its requests, the latest first. -/
abbrev TracedRun := StateT (List Request) Run

/-- The outcome of an id of a store, remembered or compiled now, for the first of the ids in
`waiting`.  There is no answer if more than `depth` requests are nested. -/
def compileWithin (s : Store) : Nat → List String → String → TracedRun Outcome
  | 0, _, _ => failure
  | depth + 1, waiting, id => do
    modify (⟨waiting, id⟩ :: ·)
    if s.knows id then do
      match (← getThe Progress).outcomes.lookup id with
      | some outcome =>
        modifyThe Progress Progress.hit
        return outcome
      | none =>
        modifyThe Progress (Progress.begin id)
        let outcome ← (assemble s (fun target =>
          ExceptT.mk (compileWithin s depth (id :: waiting) target)) id).run
        modifyThe Progress (Progress.finish id outcome)
        return outcome
    else return .error (.notFound id)

/-! ### One step of compiling -/

namespace TracedRun

variable {requests : List Request} {p : Progress}

theorem run_getThe :
    ((getThe Progress : TracedRun Progress).run requests).run p = some ((p, requests), p) := rfl

theorem run_modifyThe (f : Progress → Progress) :
    ((modifyThe Progress f : TracedRun PUnit).run requests).run p = some ((⟨⟩, requests), f p) :=
  rfl

/-- A traced run goes on with the requests and the progress that it has come to. -/
theorem run_bind {α β : Type} (x : TracedRun α) (f : α → TracedRun β) :
    ((x >>= f).run requests).run p =
      ((x.run requests).run p).bind fun r => ((f r.1.1).run r.1.2).run r.2 := rfl

end TracedRun

section Run

variable {s : Store} {depth : Nat} {busy : List String} {id : String} {p q : Progress}
  {requests : List Request} {outcome : Outcome}

/-- The request for an unknown id is noted, and answered at once. -/
theorem compileWithin_of_unknown (hk : ¬ s.knows id = true) :
    ((compileWithin s (depth + 1) busy id).run requests).run p =
      some ((.error (.notFound id), ⟨busy, id⟩ :: requests), p) := by
  rw [compileWithin, if_neg hk]; rfl

/-- The request for a remembered id is noted, and answered from the memory. -/
theorem compileWithin_of_lookup (hk : s.knows id = true)
    (hl : p.outcomes.lookup id = some outcome) :
    ((compileWithin s (depth + 1) busy id).run requests).run p =
      some ((outcome, ⟨busy, id⟩ :: requests), p.hit) := by
  rw [compileWithin, if_pos hk, TracedRun.run_bind]
  simp only [StateT.run_modify, StateT.run_pure, Option.pure_def, Option.bind_some,
    TracedRun.run_bind, TracedRun.run_getThe, hl]
  rfl

/-- The request for an id is noted before the requests that putting it together makes. -/
theorem compileWithin_of_assemble (hk : s.knows id = true) (hl : p.outcomes.lookup id = none)
    {after : List Request}
    (h : ((assemble s (fun target => ExceptT.mk (compileWithin s depth (id :: busy) target))
      id).run.run (⟨busy, id⟩ :: requests)).run (p.begin id) = some ((outcome, after), q)) :
    ((compileWithin s (depth + 1) busy id).run requests).run p =
      some ((outcome, after), q.finish id outcome) := by
  rw [compileWithin, if_pos hk, TracedRun.run_bind]
  simp only [StateT.run_modify, StateT.run_pure, Option.pure_def, Option.bind_some,
    TracedRun.run_bind, TracedRun.run_getThe, hl, TracedRun.run_modifyThe, h]

/-- An id that is neither remembered nor busy is put together. -/
theorem assemble_of_compileIn (hk : s.knows id = true) (hl : p.outcomes.lookup id = none)
    (hb : id ∉ busy) (h : (compileIn s busy id).run p = some (outcome, q)) :
    ∃ q', (assemble s (fun target => ExceptT.mk (compileIn s (id :: busy) target)) id).run.run
      (p.begin id) = some (outcome, q') ∧ q = q'.finish id outcome := by
  rw [compileIn, dif_pos hk, StateT.run_bind] at h
  simp only [StateT.run_get, Option.pure_def, Option.bind_eq_bind, Option.bind_some, hl,
    dif_neg hb, StateT.run_bind, StateT.run_modify, Option.bind_eq_some_iff] at h
  obtain ⟨⟨outcome', q'⟩, hrun, hfinish⟩ := h
  cases hfinish
  exact ⟨q', hrun, rfl⟩

end Run

/-! ### All requests -/

/-- A computation that lists its requests, which are of a kind, and the computation that does the
same without a list. -/
def tracing (P : Request → Prop) : Simulation TracedRun Run where
  rel x y := ∀ requests p a q, y.run.run p = some (a, q) →
    ∃ new, (x.run.run requests).run p = some ((a, new ++ requests), q) ∧ ∀ r ∈ new, P r
  answer r := fun requests p a q h => ⟨[], by cases h; rfl, by simp⟩
  bind {α β x y f k} h hf := fun requests p b q hrun => by
    have hy : (y >>= k).run.run p = (y.run.run p).bind fun r => (ExceptT.bindCont k r.1).run r.2 :=
      rfl
    have hx : ((x >>= f).run.run requests).run p =
        ((x.run.run requests).run p).bind fun r =>
          ((ExceptT.bindCont f r.1.1).run r.1.2).run r.2 := rfl
    rw [hy, Option.bind_eq_some_iff] at hrun
    obtain ⟨⟨r, p₁⟩, h₁, h₂⟩ := hrun
    obtain ⟨new₁, hx₁, hnew₁⟩ := h requests p r p₁ h₁
    rw [hx, hx₁, Option.bind_some]
    cases r with
    | error e => cases h₂; exact ⟨new₁, rfl, hnew₁⟩
    | ok a =>
        obtain ⟨new₂, hx₂, hnew₂⟩ := hf a (new₁ ++ requests) p₁ b q h₂
        refine ⟨new₂ ++ new₁, by rw [List.append_assoc]; exact hx₂, fun r hr => ?_⟩
        rcases List.mem_append.mp hr with hr | hr
        · exact hnew₂ r hr
        · exact hnew₁ r hr

/-- **Compiling without a guard** does the same as compiling with one, and the ids that wait for a
request lead to the id asked for, while the ids that wait at the beginning are on a sound way. -/
theorem Store.Indexed.traces_compileIn {s : Store} (h : s.Indexed) {top : String} (id : String) :
    ∀ (depth : Nat) (busy : List String), s.idle busy < depth → s.graph.LeadsTo busy id →
      s.graph.IsWay top (id :: busy) →
        (tracing fun r => s.graph.IsWay top (r.id :: r.waiting)).rel
          (ExceptT.mk (compileWithin s depth busy id)) (ExceptT.mk (compileIn s busy id)) := by
  induction id using s.graph.dependency_induction with
  | step id ih =>
      intro depth busy hdepth hbusy hway requests p outcome q hrun
      obtain ⟨depth, rfl⟩ : ∃ d, depth = d + 1 := ⟨depth - 1, by omega⟩
      have hone : ∀ r ∈ [(⟨busy, id⟩ : Request)], s.graph.IsWay top (r.id :: r.waiting) := by
        intro r hr
        rw [List.mem_singleton.mp hr]; exact hway
      have hrun : (compileIn s busy id).run p = some (outcome, q) := hrun
      by_cases hk : s.knows id = true
      · cases hl : p.outcomes.lookup id with
        | some known =>
            rw [compileIn_of_lookup hk hl] at hrun
            cases hrun
            exact ⟨[⟨busy, id⟩], compileWithin_of_lookup hk hl, hone⟩
        | none =>
            obtain ⟨q', hassemble, rfl⟩ := assemble_of_compileIn hk hl hbusy.not_mem hrun
            -- a dependency of the id is not on the way, or it would be on a circle
            have hinner : s.graph.Sound id → ∀ d, s.graph.Needs id d → _ := fun hs d hd =>
              have hnext := hbusy.cons hs hd
              ih hs d hd depth (id :: busy)
                (Nat.lt_of_lt_of_le (Store.idle_lt hk hbusy.not_mem) (by omega)) hnext
                (hway.cons hd hnext.not_mem)
            obtain ⟨new, hnew, hways⟩ := (tracing _).assemble h hinner (⟨busy, id⟩ :: requests)
              (p.begin id) outcome q' hassemble
            refine ⟨new ++ [⟨busy, id⟩], ?_, fun r hr => ?_⟩
            · rw [List.append_assoc]; exact compileWithin_of_assemble hk hl hnew
            · rcases List.mem_append.mp hr with hr | hr
              · exact hways r hr
              · exact hone r hr
      · rw [compileIn_of_unknown hk] at hrun
        cases hrun
        exact ⟨[⟨busy, id⟩], compileWithin_of_unknown hk, hone⟩

end MarkupTemplates
