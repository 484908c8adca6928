import MarkupTemplates.Command.Run
import MarkupTemplates.Proofs.Compile.Errors
import MarkupTemplates.Proofs.Dependency.Order
import MarkupTemplates.Proofs.Session.Runs
import MarkupTemplates.Proofs.Store.Log

/-!
# All ids, each once

`Memo.order` has each id of a store once: after what it requires if there is such an order, and
where it first came if not (`Store.Registered.order_perm`).  So a session that is asked for all
outcomes has for each id its own, whatever the memo knows already and whatever is wrong with other
ids (`answer_compileAll_of_reachable`).

The command `check` compiles all ids with a new memo; its status says whether one of them fails
(`Command.status_run_check`).
-/

namespace MarkupTemplates

open Relation (TransGen)

/-! ### The order of all ids -/

namespace Store

variable {s : Store}

theorem mem_ids_iff {id : String} : id ∈ s.ids ↔ s.knows id = true := by
  rw [← vertices_graph, Graph.mem_ids_iff, graph_isKnown]

theorem order_of_acyclic (h : ∀ x, ¬ TransGen s.graph.Requires x x) :
    s.graph.compileOrder = .ok (Memo.order s).value := by
  obtain ⟨order, horder⟩ := Graph.exists_compileOrder_iff.mpr h
  rw [Memo.order, horder]

/-- If ids require each other in a circle, everything is compiled in the order of first
registration. -/
theorem order_of_circle (h : ∃ x, TransGen s.graph.Requires x x) :
    (Memo.order s).value = s.ids := by
  obtain ⟨x, hx⟩ := h
  rw [Memo.order]
  split
  · rename_i order horder
    exact absurd hx (Graph.exists_compileOrder_iff.mp ⟨order, horder⟩ x)
  · rfl

/-- **The order of all ids has each of them once.** -/
theorem Registered.order_perm (h : s.Registered) : (Memo.order s).value.Perm s.ids := by
  by_cases hcircle : ∃ x, TransGen s.graph.Requires x x
  · rw [order_of_circle hcircle]
  · obtain ⟨hordered, hmem⟩ := Graph.compileOrder_eq_ok (order_of_acyclic (not_exists.mp hcircle))
    rw [List.perm_ext_iff_of_nodup hordered.nodup h.nodup_ids]
    rw [vertices_graph] at hmem
    exact hmem

end Store

/-! ### The command `check` -/

namespace Command

variable {s : Store}

/-- **The status of a check** is 1 exactly if some id fails. -/
theorem status_run_check (h : s.Registered) (settings : Settings) :
    (Task.check.run settings s).status = 1 ↔ ∃ id ∈ s.ids, ∃ e, s.resolve id = .error e := by
  have houtcomes := ((Memo.serves_new s).compileAll h.indexed).1
  simp only [Task.run, houtcomes]
  split
  · rename_i hnone
    rw [List.length_eq_zero_iff, List.filter_eq_nil_iff] at hnone
    constructor
    · intro hstatus
      cases hstatus
    · rintro ⟨id, hid, e, hfails⟩
      have hmem := List.mem_map_of_mem (f := fun id => (id, s.resolve id))
        (h.order_perm.mem_iff.mpr hid)
      exact absurd (by simp only [hfails]) (hnone _ hmem)
  · rename_i hsome
    rw [List.length_eq_zero_iff, List.filter_eq_nil_iff] at hsome
    push Not at hsome
    obtain ⟨r, hr, hfails⟩ := hsome
    obtain ⟨id, hid, rfl⟩ := List.mem_map.mp hr
    refine ⟨fun _ => ⟨id, h.order_perm.mem_iff.mp hid, ?_⟩, fun _ => rfl⟩
    cases houtcome : s.resolve id with
    | error e => exact ⟨e, rfl⟩
    | ok c => simp only [houtcome, Bool.false_eq_true] at hfails

section

variable {readFile : String → Id (Except FileFault String)}

theorem loadFiles_cons (settings : Settings) (path : String) (paths : List String) :
    loadFiles readFile settings s (path :: paths) =
      match (readFile path : Except FileFault String) with
      | .error fault =>
        .error (failure ("Error reading file '" ++ path ++ "': " ++ fault.message))
      | .ok source =>
        match s.load settings.minify path source with
        | .error e => .error (failure (e.report path source))
        | .ok (after, _) => loadFiles readFile settings after paths := by
  rw [loadFiles]; rfl

/-- What is loaded from files came about by registering batches. -/
theorem registered_loadFiles {settings : Settings} {files : List String} {after : Store}
    (h : s.Registered) (hload : loadFiles readFile settings s files = .ok after) :
    after.Registered := by
  induction files generalizing s with
  | nil => cases hload; exact h
  | cons path paths ih =>
      rw [loadFiles_cons] at hload
      split at hload
      · cases hload
      · split at hload
        · cases hload
        · rename_i hnext
          obtain ⟨ts, noted, -, hreg⟩ := Store.exists_registerAll_of_load hnext
          exact ih (.batch h hreg) hload

/-- A command whose settings and files can be read comes to what its task makes of them. -/
theorem run_of_loadFiles {args files : List String} {config : Option String} {task : Task}
    {settings : Settings} (hargs : Invocation.read args = .ok ⟨config, task, files⟩)
    (hsettings : readSettings readFile config = .ok settings)
    (hload : loadFiles readFile settings .empty files = .ok s) :
    run readFile args = task.run settings s := by
  have hresult : (do
      let settings ← readSettings readFile config
      let s ← loadFiles readFile settings .empty files
      return task.run settings s : ExceptT Output Id Output) = .ok (task.run settings s) := by
    rw [hsettings]
    change (loadFiles readFile settings .empty files >>= _) = _
    rw [hload]; rfl
  rw [run, hargs]
  simp only [Invocation.run]
  rw [hresult]; rfl

end

end Command

namespace Workspace

/-- A session that begins on the store of another answers what the store determines. -/
theorem Coherent.answer_compile_share {w : Workspace} (hw : w.Coherent) {i : Nat}
    {session : Session} (hi : w.sessions[i]? = some session) (settings : Settings) (id : String) :
    (w.step i (.share settings)).answer w.sessions.length (.compile id) =
      .outcome ((w.storeOf session).resolve id) := by
  have hstep : w.step i (.share settings) = w.share session settings := by
    rw [Workspace.step, perform, hi]
  have hnew : (w.step i (.share settings)).sessions[w.sessions.length]? =
      some ⟨settings, session.store, { store := w.storeOf session }⟩ := by
    rw [hstep]; exact List.getElem?_concat_length
  rw [(hw.step i (.share settings)).answer_compile hnew id, hstep]
  rfl

/-- **All ids, each once.**  A session of a reachable workspace that is asked for all outcomes gives
one for each id of its store: the one that a new session on the store gives for the id.  If the
dependencies that have a definition form no circle, each id comes after those it has; if they form
one, the ids come where they first came in the log.  In any case an id that reaches defined ids only,
and none that depends on itself, does not fail by a circle or a missing target.

If the settings and the files of a command `check` can be read, its status is 1 exactly if an id of
these files fails. -/
theorem answer_compileAll_of_reachable {w : Workspace} (h : w.Reachable) {i : Nat}
    {session : Session} (hi : w.sessions[i]? = some session) :
    let s := w.storeOf session
    (∃ outcomes, w.answer i .compileAll = .outcomes outcomes ∧
      (outcomes.map Prod.fst).Perm s.ids ∧
      (∀ r ∈ outcomes, ∀ settings,
        (w.step i (.share settings)).answer w.sessions.length (.compile r.1) = .outcome r.2) ∧
      ((∀ x, ¬ TransGen s.graph.Requires x x) →
        ∀ before id after, outcomes.map Prod.fst = before ++ id :: after →
          ∀ d, s.graph.Needs id d → s.contains d = true → d ∈ before) ∧
      ((∃ x, TransGen s.graph.Requires x x) →
        outcomes.map Prod.fst = s.ids ∧ s.ids = (s.templates.map (·.id)).eraseDups) ∧
      ∀ r ∈ outcomes,
        (∀ x, s.graph.Reaches r.1 x → s.contains x = true ∧ ¬ TransGen s.graph.Needs x x) →
          ∀ e, r.2 = .error e → (∀ chain, e ≠ .cycle chain) ∧ ∀ a b, e ≠ .missingTarget a b) ∧
    ∀ (readFile : String → Id (Except Command.FileFault String)) args config files settings loaded,
      Command.Invocation.read args = .ok ⟨config, .check, files⟩ →
      Command.readSettings readFile config = .ok settings →
      Command.loadFiles readFile settings .empty files = .ok loaded →
      ((Command.run readFile args).status = 1 ↔ ∃ id ∈ loaded.ids, ∃ e,
        (({ store := loaded } : Memo).compile loaded id).1.value = .error e) := by
  intro s
  have hw : w.Coherent := h.coherent
  have hs : s.Registered := hw.registered_storeOf session
  have hids : ((Memo.order s).value.map fun id => (id, s.resolve id)).map Prod.fst =
      (Memo.order s).value := by
    rw [List.map_map]; exact List.map_id _
  refine ⟨⟨_, hw.answer_compileAll hi, ?perm, ?outcome, ?after, ?fallback, ?sound⟩, ?check⟩
  case perm => rw [hids]; exact hs.order_perm
  case outcome =>
    intro r hr settings
    obtain ⟨id, -, rfl⟩ := List.mem_map.mp hr
    exact hw.answer_compile_share hi settings id
  case after =>
    rw [hids]
    intro hacyclic before id after heq d hd hdefined
    have hordered := (Graph.compileOrder_eq_ok (Store.order_of_acyclic hacyclic)).1
    exact hordered.mem_before before id after heq d ⟨hd, (Store.graph_isDefined s d).trans hdefined⟩
  case fallback =>
    rw [hids]
    exact fun hcircle => ⟨Store.order_of_circle hcircle, hs.ids_eq⟩
  case sound =>
    intro r hr hreached e he
    obtain ⟨id, -, rfl⟩ := List.mem_map.mp hr
    have hsound : s.graph.Sound id := fun x hx =>
      ⟨(Store.graph_isDefined s x).trans (hreached x hx).1, (hreached x hx).2⟩
    obtain ⟨x, -, t, d, hrefuses⟩ := hs.indexed.error_of_resolve id hsound e he
    cases hrefuses.ofDirective <;> exact ⟨nofun, nofun⟩
  case check =>
    intro readFile args config files settings loaded hargs hsettings hload
    have hloaded := Command.registered_loadFiles .empty hload
    rw [Command.run_of_loadFiles hargs hsettings hload, Command.status_run_check hloaded]
    simp only [((Memo.serves_new loaded).compile hloaded.indexed _).1]

/-- A root includes a copy of another root, and an id has layers only; then a layer of the other
root includes the first, and a third root comes.  A file holds a template that includes what is
missing. -/
theorem answer_compileAll_of_reachable_circle :
    let calls : List (Nat × Operation) :=
      [(0, .registerAll [⟨"a", .root [.element "include" ⟨[("template", "b")]⟩ []], .inline⟩,
          ⟨"b", .copy "c" [], .inline⟩, ⟨"c", .root [.text "x"], .inline⟩,
          ⟨"d", .layer "d" 1 [], .inline⟩]), (0, .compile "b")]
    let more : List (Nat × Operation) :=
      [(0, .registerAll [⟨"c", .layer "c" 1 [⟨⟨"p", []⟩, .replace,
          [.element "include" ⟨[("template", "a")]⟩ []], false, ⟨0, 0⟩⟩], .inline⟩,
          ⟨"e", .root [.text "y"], .inline⟩])]
    let readFile : String → Id (Except Command.FileFault String) := fun _ =>
      .ok "<template id=\"a\"><include template=\"b\"/></template>"
    (∃ session, ((start {}).run calls).sessions[0]? = some session ∧
      (∀ x, ¬ TransGen (((start {}).run calls).storeOf session).graph.Requires x x) ∧
      ∃ outcomes, ((start {}).run calls).answer 0 .compileAll = .outcomes outcomes ∧
        outcomes.map Prod.fst = ["c", "b", "a", "d"] ∧
        (outcomes.map Prod.fst).Perm ["a", "b", "c", "d"]) ∧
    (∃ session, ((start {}).run (calls ++ more)).sessions[0]? = some session ∧
      (∃ x, TransGen (((start {}).run (calls ++ more)).storeOf session).graph.Requires x x) ∧
      ∃ outcomes, ((start {}).run (calls ++ more)).answer 0 .compileAll = .outcomes outcomes ∧
        outcomes.map Prod.fst = ["a", "b", "c", "d", "e"]) ∧
    (Command.run readFile ["check", "f"]).status = 1 := by
  intro calls more readFile
  obtain ⟨session, hsession⟩ : ∃ session, ((start {}).run calls).sessions[0]? = some session :=
    ⟨_, rfl⟩
  obtain ⟨session', hsession'⟩ :
      ∃ session, ((start {}).run (calls ++ more)).sessions[0]? = some session := ⟨_, rfl⟩
  obtain ⟨⟨outcomes, hanswer, hperm, -⟩, hcheck⟩ :=
    answer_compileAll_of_reachable ⟨{}, calls, rfl⟩ hsession
  obtain ⟨⟨outcomes', hanswer', -, -, -, hfallback, -⟩, -⟩ :=
    answer_compileAll_of_reachable ⟨{}, calls ++ more, rfl⟩ hsession'
  have hids : (((start {}).run calls).storeOf session).ids = ["a", "b", "c", "d"] := by
    cases hsession; rfl
  have hids' : (((start {}).run (calls ++ more)).storeOf session').ids =
      ["a", "b", "c", "d", "e"] := by
    cases hsession'; rfl
  have hacyclic : ∀ x, ¬ TransGen (((start {}).run calls).storeOf session).graph.Requires x x := by
    refine Graph.exists_compileOrder_iff.mp ⟨["c", "b", "a", "d"], ?_⟩
    cases hsession; cbv
  have hcircle :
      ∃ x, TransGen (((start {}).run (calls ++ more)).storeOf session').graph.Requires x x := by
    have hrequires : ∀ pair ∈ [("a", "b"), ("b", "c"), ("c", "a")],
        (((start {}).run (calls ++ more)).storeOf session').graph.Requires pair.1 pair.2 := by
      cases hsession'
      unfold Graph.Requires Graph.Needs
      decide
    exact ⟨"a", .tail (.tail (.single (hrequires ("a", "b") (by simp)))
      (hrequires ("b", "c") (by simp))) (hrequires ("c", "a") (by simp))⟩
  have hordered : ∃ outcomes, ((start {}).run calls).answer 0 .compileAll = .outcomes outcomes ∧
      outcomes.map Prod.fst = ["c", "b", "a", "d"] := by
    refine ⟨?outcomes, ?answer, ?order⟩
    case answer => subst calls; cbv; rfl
    case order => rfl
  obtain ⟨same, hsame, hfst⟩ := hordered
  obtain rfl : same = outcomes := by rw [hsame] at hanswer; cases hanswer; rfl
  refine ⟨⟨session, hsession, hacyclic, same, hanswer, hfst, hids ▸ hperm⟩,
    ⟨session', hsession', hcircle, outcomes', hanswer', ?_⟩, ?_⟩
  · rw [(hfallback hcircle).1, hids']
  · have hloaded : ∃ loaded, Command.loadFiles readFile {} .empty ["f"] = .ok loaded ∧
        loaded.ids = ["a"] ∧ (({ store := loaded } : Memo).compile loaded "a").1.value =
          .error (.missingTarget "a" "b") := by
      refine ⟨?loaded, ?load, ?ids, ?outcome⟩
      case load => subst readFile; cbv; rfl
      case ids => rfl
      case outcome => cbv
    obtain ⟨loaded, hload, hids, houtcome⟩ := hloaded
    refine (hcheck readFile ["check", "f"] none ["f"] {} loaded rfl rfl hload).mpr ?_
    exact ⟨"a", by rw [hids]; simp, _, houtcome⟩

end Workspace

end MarkupTemplates
