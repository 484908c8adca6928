import Mathlib.Data.List.Lex
import MarkupTemplates.Path.Select

/-!
# What a path addresses

A path is a way down a tree, in one go for each step: `LeadsTo` says from which index to which one
the steps of a path lead, without saying how the indices are found.

* `Path.mem_select_iff_leadsTo`: a path addresses exactly the elements that its steps lead to from
  the top of the tree, each once and in document order, which is the lexicographic order of the
  indices.

Descendants are collected from a worklist.  What the worklist still holds is said by
`Worklist.Finds`; one turn of it loses nothing and adds nothing (`Worklist.finds_cons`), and so does
the whole run (`Step.mem_amongDescendants`).
-/

namespace MarkupTemplates.Markup

variable {nodes : List Node} {p q r : Index} {i : Nat}

/-! ### Nodes below an index -/

theorem nodeAt?_nil : ∀ q : Index, nodeAt? [] q = none
  | [] | [_] | _ :: _ :: _ => rfl

theorem nodeAt?_cons (hr : r ≠ []) :
    nodeAt? nodes (i :: r) = nodes[i]?.bind fun n => nodeAt? n.children r := by
  obtain ⟨j, r, rfl⟩ := List.exists_cons_of_ne_nil hr
  rw [nodeAt?]
  cases nodes[i]? with
  | none => rfl
  | some n =>
      cases n with
      | element tag attributes children => rfl
      | text content => exact (nodeAt?_nil (j :: r)).symm

/-- The nodes below an index stand where they stand among its children. -/
theorem nodeAt?_append (hr : r ≠ []) :
    nodeAt? nodes (p ++ r) = (childrenAt? nodes p).bind (nodeAt? · r) := by
  induction p generalizing nodes with
  | nil => rfl
  | cons i p ih =>
      rw [List.cons_append, nodeAt?_cons (by simp [hr]), childrenAt?, if_neg (List.cons_ne_nil _ _)]
      cases hi : nodes[i]? with
      | none => cases p <;> simp [nodeAt?, hi]
      | some n =>
          rw [Option.bind_some, ih]
          cases p with
          | nil =>
              rw [nodeAt?, hi]
              cases n with
              | element tag attributes children => rfl
              | text content => exact nodeAt?_nil r
          | cons j p =>
              rw [nodeAt?_cons (List.cons_ne_nil _ _), hi, childrenAt?,
                if_neg (List.cons_ne_nil _ _), Option.bind_some]

/-! ### Document order -/

theorem inOrder_iff : ∀ {p q : Index}, inOrder p q = true ↔ ¬ q < p
  | [], q => by simp [inOrder]
  | i :: p, [] => by simp [inOrder]
  | i :: p, j :: q => by
      rw [inOrder, Bool.or_eq_true, Bool.and_eq_true, decide_eq_true_iff, beq_iff_eq, inOrder_iff,
        List.cons_lt_cons_iff]
      rcases lt_trichotomy i j with h | rfl | h
      · simp [h, h.ne', h.le]
      · simp
      · simp [h, h.ne', h.le]

/-- Sorted indices do not go back in the document. -/
theorem pairwise_mergeSort_inOrder (l : List Index) :
    (l.mergeSort inOrder).Pairwise fun p q => ¬ q < p := by
  have hsorted : (l.mergeSort inOrder).Pairwise fun p q => inOrder p q = true := by
    refine List.pairwise_mergeSort (fun p q r hpq hqr => ?_) (fun p q => ?_) l
    · rw [inOrder_iff, not_lt] at *
      exact hpq.trans hqr
    · rw [Bool.or_eq_true, inOrder_iff, inOrder_iff, not_lt, not_lt]
      exact le_total p q
  exact hsorted.imp inOrder_iff.mp

/-! ### Repetitions -/

/-- What the loop has gathered does not change what it still gathers. -/
theorem eraseRepsBy_loop {α : Type} {eq : α → α → Bool} : ∀ (l acc : List α) (a : α),
    List.eraseRepsBy.loop eq a l acc = acc.reverse ++ List.eraseRepsBy.loop eq a l []
  | [], acc, a => by simp [List.eraseRepsBy.loop]
  | b :: l, acc, a => by
      rw [List.eraseRepsBy.loop, List.eraseRepsBy.loop]
      split
      · exact eraseRepsBy_loop l acc a
      · rw [eraseRepsBy_loop l (a :: acc), eraseRepsBy_loop l [a]]
        simp

/-- An index is dropped if the next one repeats it. -/
theorem eraseReps_cons_cons {l : List Index} :
    (p :: q :: l).eraseReps = if p = q then (q :: l).eraseReps else p :: (q :: l).eraseReps := by
  simp only [List.eraseReps, List.eraseRepsBy, List.eraseRepsBy.loop]
  by_cases h : p = q
  · simp [h]
  · have hb : (p == q) = false := beq_eq_false_iff_ne.mpr h
    rw [hb, if_neg h]
    exact eraseRepsBy_loop l [p] q

theorem mem_eraseReps : ∀ {l : List Index}, p ∈ l.eraseReps ↔ p ∈ l
  | [] | [_] => Iff.rfl
  | q :: r :: l => by
      rw [eraseReps_cons_cons]
      split
      · rename_i h
        rw [mem_eraseReps, h]
        simp
      · rw [List.mem_cons, List.mem_cons, mem_eraseReps]

/-- A list in order is strictly in order without its repetitions. -/
theorem pairwise_lt_eraseReps :
    ∀ {l : List Index}, (l.Pairwise fun p q => ¬ q < p) → l.eraseReps.Pairwise (· < ·)
  | [], _ => .nil
  | [_], _ => List.pairwise_singleton _ _
  | q :: r :: l, h => by
      obtain ⟨hq, htail⟩ := List.pairwise_cons.mp h
      have hr := (List.pairwise_cons.mp htail).1
      rw [eraseReps_cons_cons]
      split
      · exact pairwise_lt_eraseReps htail
      · rename_i hne
        refine List.pairwise_cons.mpr ⟨fun s hs => ?_, pairwise_lt_eraseReps htail⟩
        have hlt : q < r := lt_of_le_of_ne (not_lt.mp (hq r (by simp))) hne
        rcases List.mem_cons.mp (mem_eraseReps.mp hs) with rfl | hs
        · exact hlt
        · exact hlt.trans_le (not_lt.mp (hr s hs))

end MarkupTemplates.Markup

namespace MarkupTemplates.Path

open Markup (Node Index Attributes nodeAt? childrenAt? nodeAt?_cons nodeAt?_append nodeAt?_nil)

/-! ### What steps mean -/

/-- A tag meets a test. -/
inductive TagTest.Meets (tag : String) : TagTest → Prop where
  /-- Any tag does where none is named. -/
  | any : Meets tag .any
  /-- A tag that is named must be the tag. -/
  | named : Meets tag (.named tag)

/-- Attributes meet a predicate. -/
inductive Predicate.Meets (attributes : Attributes) : Predicate → Prop where
  /-- The attribute is there. -/
  | present {name : String} : name ∈ attributes.keys → Meets attributes (.present name)
  /-- The attribute has the value. -/
  | equal {name value : String} :
      attributes.get? name = some value → Meets attributes (.equal name value)

/-- An element stands at the index, and it meets the step's tag test and all its predicates. -/
def Step.Meets (step : Step) (nodes : List Node) (q : Index) : Prop :=
  ∃ tag attributes children, nodeAt? nodes q = some (.element tag attributes children) ∧
    step.test.Meets tag ∧ ∀ predicate ∈ step.predicates, predicate.Meets attributes

/-- Going in a direction leads from one index to another: to a child, or to something deeper. -/
inductive Axis.Reaches (p : Index) : Axis → Index → Prop where
  /-- A child is one position further down. -/
  | child (i : Nat) : Reaches p .child (p ++ [i])
  /-- A descendant is some positions further down, and at least one. -/
  | descendant (i : Nat) (rest : Index) : Reaches p .descendant (p ++ i :: rest)

/-- Steps lead from one index to another. -/
inductive LeadsTo (nodes : List Node) : Index → List Step → Index → Prop where
  /-- No step leads nowhere else. -/
  | nil {p : Index} : LeadsTo nodes p [] p
  /-- The first step leads to an element that meets it, and the others lead on from there. -/
  | cons {p q r : Index} {step : Step} {steps : List Step} :
      step.axis.Reaches p q → step.Meets nodes q → LeadsTo nodes q steps r →
        LeadsTo nodes p (step :: steps) r

variable {step : Step} {nodes : List Node} {base p q : Index} {i : Nat}

/-! ### Tests -/

/-- A tag test accepts the tags that meet it. -/
theorem TagTest.accepts_iff {test : TagTest} {tag : String} :
    test.accepts tag = true ↔ test.Meets tag := by
  cases test with
  | any => exact ⟨fun _ => .any, fun _ => rfl⟩
  | named name =>
      rw [accepts, beq_iff_eq]
      exact ⟨fun h => h ▸ .named, fun | .named => rfl⟩

/-- A predicate holds of the attributes that meet it. -/
theorem Predicate.holds_iff {predicate : Predicate} {attributes : Attributes} :
    predicate.holds attributes = true ↔ predicate.Meets attributes := by
  cases predicate with
  | present name =>
      rw [holds, Attributes.contains, Attributes.get?, List.lookup_isSome_iff]
      simp only [beq_iff_eq]
      constructor
      · rintro ⟨pair, hpair, rfl⟩
        exact .present (List.mem_map_of_mem hpair)
      · rintro ⟨hname⟩
        obtain ⟨pair, hpair, rfl⟩ := List.mem_map.mp hname
        exact ⟨pair, hpair, rfl⟩
  | equal name value =>
      rw [holds, beq_iff_eq]
      constructor
      · exact .equal
      · intro h
        cases h with
        | equal h => exact h

/-- A step is met at an index where there is a node that it admits. -/
theorem Step.meets_iff : step.Meets nodes q ↔ ∃ n, nodeAt? nodes q = some n ∧ step.admits n := by
  constructor
  · rintro ⟨tag, attributes, children, hq, htest, hpredicates⟩
    refine ⟨_, hq, ?_⟩
    rw [admits, accepts, Bool.and_eq_true, TagTest.accepts_iff, List.all_eq_true]
    exact ⟨htest, fun predicate h => Predicate.holds_iff.mpr (hpredicates predicate h)⟩
  · rintro ⟨n, hq, hn⟩
    cases n with
    | text content => cases hn
    | element tag attributes children =>
        rw [admits, accepts, Bool.and_eq_true, TagTest.accepts_iff, List.all_eq_true] at hn
        exact ⟨tag, attributes, children, hq, hn.1,
          fun predicate h => Predicate.holds_iff.mp (hn.2 predicate h)⟩

theorem Step.not_meets_nil : ¬ step.Meets nodes [] := by
  rintro ⟨tag, attributes, children, h, -⟩
  cases h

/-- What meets a step is one of the nodes or stands below one. -/
theorem Step.meets_cons_iff {r : Index} : step.Meets nodes (i :: r) ↔
    ∃ n, nodes[i]? = some n ∧ (r = [] ∧ step.admits n ∨ step.Meets n.children r) := by
  cases r with
  | nil =>
      simp only [not_meets_nil, or_false, true_and]
      exact meets_iff
  | cons j r =>
      simp only [meets_iff, nodeAt?_cons (List.cons_ne_nil j r), Option.bind_eq_some_iff,
        reduceCtorEq, false_and, false_or]
      constructor
      · rintro ⟨m, ⟨n, hn, hm⟩, hadmits⟩
        exact ⟨n, hn, m, hm, hadmits⟩
      · rintro ⟨n, hn, m, hm, hadmits⟩
        exact ⟨m, ⟨n, hn, hm⟩, hadmits⟩

/-! ### The worklist -/

/-- An element that meets the step stands in or below one of the lists, and this is its index. -/
def Worklist.Finds (step : Step) (pending : Worklist) (q : Index) : Prop :=
  ∃ entry ∈ pending, ∃ r, q = entry.1 ++ r ∧ step.Meets entry.2 r

/-- Among children, a step finds the positions of those that it admits. -/
theorem Step.mem_amongChildren (step : Step) : q ∈ step.amongChildren base nodes ↔
    ∃ i n, nodes[i]? = some n ∧ step.admits n ∧ q = base ++ [i] := by
  simp only [amongChildren, List.mem_map, List.mem_filter, List.mem_zipIdx_iff_getElem?]
  constructor
  · rintro ⟨⟨n, i⟩, ⟨hn, hadmits⟩, rfl⟩
    exact ⟨i, n, hn, hadmits, rfl⟩
  · rintro ⟨i, n, hn, hadmits, rfl⟩
    exact ⟨(n, i), ⟨hn, hadmits⟩, rfl⟩

/-- What is left to look at are the children of the elements of a list. -/
theorem mem_inner {entry : Index × List Node} : entry ∈ inner base nodes ↔
    ∃ i n, nodes[i]? = some n ∧ n.children ≠ [] ∧ entry = (base ++ [i], n.children) := by
  simp only [inner, List.mem_map, List.mem_filter, List.mem_zipIdx_iff_getElem?,
    Bool.not_eq_true', List.isEmpty_eq_false_iff]
  constructor
  · rintro ⟨⟨n, i⟩, ⟨hn, hne⟩, rfl⟩
    exact ⟨i, n, hn, hne, rfl⟩
  · rintro ⟨i, n, hn, hne, rfl⟩
    exact ⟨(n, i), ⟨hn, hne⟩, rfl⟩

/-- **One turn of the worklist.**  What is found with a list is found among its nodes or with the
lists one level below. -/
theorem Worklist.finds_cons {pending : Worklist} :
    Worklist.Finds step ((base, nodes) :: pending) q ↔
      q ∈ step.amongChildren base nodes ∨
        Worklist.Finds step ((inner base nodes).reverse ++ pending) q := by
  constructor
  · rintro ⟨entry, hentry, r, rfl, hmeets⟩
    rcases List.mem_cons.mp hentry with rfl | hentry
    · cases r with
      | nil => exact absurd hmeets Step.not_meets_nil
      | cons i r =>
          obtain ⟨n, hn, ⟨rfl, hadmits⟩ | hbelow⟩ := Step.meets_cons_iff.mp hmeets
          · exact .inl (step.mem_amongChildren.mpr ⟨i, n, hn, hadmits, rfl⟩)
          · refine .inr ⟨(base ++ [i], n.children), ?_, r, by simp, hbelow⟩
            have hne : n.children ≠ [] := by
              rintro hnil
              obtain ⟨m, hm, -⟩ := Step.meets_iff.mp hbelow
              rw [hnil, nodeAt?_nil] at hm
              cases hm
            exact List.mem_append_left _ (List.mem_reverse.mpr
              (mem_inner.mpr ⟨i, n, hn, hne, rfl⟩))
    · exact .inr ⟨entry, List.mem_append_right _ hentry, r, rfl, hmeets⟩
  · rintro (hq | ⟨entry, hentry, r, rfl, hmeets⟩)
    · obtain ⟨i, n, hn, hadmits, rfl⟩ := step.mem_amongChildren.mp hq
      refine ⟨(base, nodes), List.mem_cons_self, [i], rfl, ?_⟩
      exact Step.meets_cons_iff.mpr ⟨n, hn, .inl ⟨rfl, hadmits⟩⟩
    · rcases List.mem_append.mp hentry with hentry | hentry
      · obtain ⟨i, n, hn, -, rfl⟩ := mem_inner.mp (List.mem_reverse.mp hentry)
        refine ⟨(base, nodes), List.mem_cons_self, i :: r, by simp, ?_⟩
        exact Step.meets_cons_iff.mpr ⟨n, hn, .inr hmeets⟩
      · exact ⟨entry, List.mem_cons_of_mem _ hentry, r, rfl, hmeets⟩

/-- **The worklist in the whole** collects what is found in and below its lists. -/
theorem Step.mem_amongDescendants (step : Step) (pending : Worklist) :
    q ∈ step.amongDescendants pending ↔ Worklist.Finds step pending q := by
  fun_induction step.amongDescendants pending with
  | case1 => simp [Worklist.Finds]
  | case2 base nodes pending ih => rw [List.mem_append, ih, Worklist.finds_cons]

/-! ### One step -/

theorem Axis.reaches_child_iff : Axis.child.Reaches p q ↔ ∃ i, q = p ++ [i] :=
  ⟨fun | .child i => ⟨i, rfl⟩, fun ⟨i, h⟩ => h ▸ .child i⟩

theorem Axis.reaches_descendant_iff :
    Axis.descendant.Reaches p q ↔ ∃ r, r ≠ [] ∧ q = p ++ r := by
  constructor
  · rintro ⟨⟩
    exact ⟨_, List.cons_ne_nil _ _, rfl⟩
  · rintro ⟨r, hr, rfl⟩
    obtain ⟨i, r, rfl⟩ := List.exists_cons_of_ne_nil hr
    exact .descendant i r

/-- A step is met below an index as it is met among the children there. -/
theorem Step.meets_append_iff {r : Index} (hr : r ≠ []) : step.Meets nodes (p ++ r) ↔
    ∃ children, childrenAt? nodes p = some children ∧ step.Meets children r := by
  simp only [meets_iff, nodeAt?_append hr, Option.bind_eq_some_iff]
  constructor
  · rintro ⟨n, ⟨children, hchildren, hn⟩, hadmits⟩
    exact ⟨children, hchildren, n, hn, hadmits⟩
  · rintro ⟨children, hchildren, n, hn, hadmits⟩
    exact ⟨n, ⟨children, hchildren, hn⟩, hadmits⟩

/-- **From one index** a step collects the elements that its direction leads to and that meet it. -/
theorem Step.mem_collect :
    q ∈ step.collect nodes p ↔ step.axis.Reaches p q ∧ step.Meets nodes q := by
  have hnone (r : Index) (hr : r ≠ []) (h : childrenAt? nodes p = none) :
      ¬ step.Meets nodes (p ++ r) := by
    rw [meets_append_iff hr, h]
    rintro ⟨children, hchildren, -⟩
    cases hchildren
  rw [collect]
  cases haxis : step.axis with
  | child =>
      rw [Axis.reaches_child_iff]
      cases hchildren : childrenAt? nodes p with
      | none =>
          refine iff_of_false List.not_mem_nil ?_
          rintro ⟨⟨i, rfl⟩, hmeets⟩
          exact hnone [i] (by simp) hchildren hmeets
      | some children =>
          simp only [step.mem_amongChildren]
          constructor
          · rintro ⟨i, n, hn, hadmits, rfl⟩
            refine ⟨⟨i, rfl⟩, (meets_append_iff (by simp)).mpr ⟨children, hchildren, ?_⟩⟩
            exact meets_cons_iff.mpr ⟨n, hn, .inl ⟨rfl, hadmits⟩⟩
          · rintro ⟨⟨i, rfl⟩, hmeets⟩
            obtain ⟨_, h, hmeets⟩ := (meets_append_iff (by simp)).mp hmeets
            cases hchildren.symm.trans h
            obtain ⟨n, hn, hadmits⟩ := meets_iff.mp hmeets
            exact ⟨i, n, hn, hadmits, rfl⟩
  | descendant =>
      rw [Axis.reaches_descendant_iff]
      cases hchildren : childrenAt? nodes p with
      | none =>
          refine iff_of_false List.not_mem_nil ?_
          rintro ⟨⟨r, hr, rfl⟩, hmeets⟩
          exact hnone r hr hchildren hmeets
      | some children =>
          simp only [step.mem_amongDescendants, Worklist.Finds, List.mem_singleton,
            exists_eq_left]
          constructor
          · rintro ⟨r, rfl, hmeets⟩
            have hr : r ≠ [] := by rintro rfl; exact not_meets_nil hmeets
            exact ⟨⟨r, hr, rfl⟩, (meets_append_iff hr).mpr ⟨children, hchildren, hmeets⟩⟩
          · rintro ⟨⟨r, hr, rfl⟩, hmeets⟩
            obtain ⟨_, h, hmeets⟩ := (meets_append_iff hr).mp hmeets
            cases hchildren.symm.trans h
            exact ⟨r, rfl, hmeets⟩

/-- One step finds what it leads to from some index of the context. -/
theorem Step.mem_select {context : List Index} :
    q ∈ step.select nodes context ↔ ∃ p ∈ context, step.axis.Reaches p q ∧ step.Meets nodes q := by
  rw [select, Markup.mem_eraseReps, List.mem_mergeSort, List.mem_flatMap]
  simp only [mem_collect]

/-- One step finds indices in document order, each once. -/
theorem Step.pairwise_lt_select (step : Step) (nodes : List Node) (context : List Index) :
    (step.select nodes context).Pairwise (· < ·) :=
  Markup.pairwise_lt_eraseReps (Markup.pairwise_mergeSort_inOrder _)

/-! ### All steps -/

/-- **Several steps find what they lead to** from some index of the context. -/
theorem mem_foldl_select {steps : List Step} {context : List Index} :
    q ∈ steps.foldl (Step.select nodes) context ↔ ∃ p ∈ context, LeadsTo nodes p steps q := by
  induction steps generalizing context with
  | nil => exact ⟨fun h => ⟨q, h, .nil⟩, fun ⟨p, hp, h⟩ => by cases h; exact hp⟩
  | cons step steps ih =>
      rw [List.foldl_cons, ih]
      constructor
      · rintro ⟨r, hr, hrest⟩
        obtain ⟨p, hp, hreaches, hmeets⟩ := Step.mem_select.mp hr
        exact ⟨p, hp, .cons hreaches hmeets hrest⟩
      · rintro ⟨p, hp, hleads⟩
        cases hleads with
        | cons hreaches hmeets hrest =>
            exact ⟨_, Step.mem_select.mpr ⟨p, hp, hreaches, hmeets⟩, hrest⟩

/-- The indices stay in document order, each once, from step to step. -/
theorem pairwise_lt_foldl_select {steps : List Step} {context : List Index}
    (h : context.Pairwise (· < ·)) :
    (steps.foldl (Step.select nodes) context).Pairwise (· < ·) := by
  induction steps generalizing context with
  | nil => exact h
  | cons step steps ih => exact ih (step.pairwise_lt_select nodes context)

/-- Where steps lead, an element stands that meets the last of them. -/
theorem LeadsTo.exists_meets {steps : List Step} (h : LeadsTo nodes p steps q) :
    steps = [] ∧ q = p ∨ ∃ step ∈ steps, step.Meets nodes q := by
  induction h with
  | nil => exact .inl ⟨rfl, rfl⟩
  | cons _ hmeets _ ih =>
      rcases ih with ⟨-, rfl⟩ | ⟨step, hstep, h⟩
      · exact .inr ⟨_, List.mem_cons_self, hmeets⟩
      · exact .inr ⟨step, List.mem_cons_of_mem _ hstep, h⟩

end MarkupTemplates.Path

namespace MarkupTemplates

open Markup (Node Index nodeAt?)

/-- A path addresses elements in document order, each once. -/
theorem Path.pairwise_lt_select (path : Path) (nodes : List Node) :
    (path.select nodes).Pairwise (· < ·) :=
  (Path.pairwise_lt_foldl_select (List.pairwise_singleton _ _)).sublist List.filter_sublist

/-- A path finds what its steps lead to from the top, but for the top itself. -/
theorem Path.mem_select {path : Path} {nodes : List Node} {q : Index} :
    q ∈ path.select nodes ↔ q ≠ [] ∧ Path.LeadsTo nodes [] path.steps q := by
  rw [select, List.mem_filter, Path.mem_foldl_select, decide_eq_true_iff, and_comm]
  simp only [List.mem_singleton, exists_eq_left]

/-- **What a path addresses.**  These are exactly the elements to which its steps lead from the top
of the tree, each step to a child or to a descendant that meets its tests; they come in document
order, which is the lexicographic order of their indices, and none comes twice. -/
theorem Path.mem_select_iff_leadsTo (path : Path) (nodes : List Node) :
    (∀ q, q ∈ path.select nodes ↔
      (∃ tag attributes children, nodeAt? nodes q = some (.element tag attributes children)) ∧
        Path.LeadsTo nodes [] path.steps q) ∧
      (path.select nodes).Pairwise (· < ·) := by
  refine ⟨fun q => ?_, path.pairwise_lt_select nodes⟩
  rw [mem_select, and_congr_left_iff]
  intro hleads
  constructor
  · intro hne
    rcases hleads.exists_meets with ⟨-, rfl⟩ | ⟨step, -, tag, attributes, children, hq, -⟩
    · exact absurd rfl hne
    · exact ⟨tag, attributes, children, hq⟩
  · rintro ⟨tag, attributes, children, hq⟩ rfl
    cases hq

end MarkupTemplates
