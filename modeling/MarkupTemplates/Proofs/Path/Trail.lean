import Mathlib.Data.List.Infix
import Mathlib.Data.List.Sort
import MarkupTemplates.Proofs.Path.Selection

/-!
# Trails

The trail of an element lists the tag and the attributes of the element and of those around it, its
own first.  Whether a path addresses an element can be told from the trail alone (`Path.leads`),
whatever the positions of the elements and whatever stands between them:

* `Path.select_eq`: a path addresses the elements to whose trails it leads, in document order;
* `pairwise_lt_trails`: document order is the lexicographic order of the indices.
-/

namespace MarkupTemplates.Markup

/-- The tag and the attributes of an element and of those around it, its own first. -/
abbrev Trail := List (String × Attributes)

/-- The trail of the element at an index of a list that stands in elements with the trail `above`;
the empty index stands for the innermost of these. -/
def trailFrom? (above : Trail) (nodes : List Node) : Index → Option Trail
  | [] => some above
  | i :: rest =>
    match nodes[i]? with
    | some (.element tag attributes children) =>
      trailFrom? ((tag, attributes) :: above) children rest
    | _ => none

mutual

/-- The elements of a node that stands at `index`, with their trails, in document order. -/
def Node.trailsAt (index : Index) (above : Trail) : Node → List (Index × Trail)
  | .text _ => []
  | .element tag attributes children =>
    (index, (tag, attributes) :: above) ::
      trailsFrom index ((tag, attributes) :: above) 0 children

/-- The elements of the nodes that stand below `parent` from position `i` on, with their trails, in
document order. -/
def trailsFrom (parent : Index) (above : Trail) (i : Nat) : List Node → List (Index × Trail)
  | [] => []
  | n :: ns => n.trailsAt (parent ++ [i]) above ++ trailsFrom parent above (i + 1) ns

end

/-- All elements of a tree with their trails, in document order. -/
def trails (nodes : List Node) : List (Index × Trail) := trailsFrom [] [] 0 nodes

variable {above T : Trail} {n : Node} {ns nodes : List Node} {index parent q : Index} {i j : Nat}

/-! ### The trail at an index -/

mutual

theorem Node.mem_trailsAt : ∀ {n : Node} {index : Index} {above : Trail},
    (q, T) ∈ n.trailsAt index above ↔
      ∃ rest, q = index ++ rest ∧ trailFrom? above [n] (0 :: rest) = some T
  | .text content, index, above => by
      rw [Node.trailsAt]
      exact ⟨nofun, fun ⟨_, _, h⟩ => nomatch h⟩
  | .element tag attributes children, index, above => by
      rw [Node.trailsAt, List.mem_cons, mem_trailsFrom]
      constructor
      · rintro (h | ⟨j, rest, rfl, h⟩)
        · cases h
          exact ⟨[], (List.append_nil _).symm, rfl⟩
        · exact ⟨j :: rest, by rw [Nat.zero_add], h⟩
      · rintro ⟨rest, rfl, h⟩
        cases rest with
        | nil => cases h; exact .inl (by rw [List.append_nil])
        | cons j rest => exact .inr ⟨j, rest, by rw [Nat.zero_add], h⟩

/-- The trails of nodes are those at the indices below their parent. -/
theorem mem_trailsFrom : ∀ {ns : List Node} {parent : Index} {above : Trail} {i : Nat},
    (q, T) ∈ trailsFrom parent above i ns ↔
      ∃ j rest, q = parent ++ (i + j) :: rest ∧ trailFrom? above ns (j :: rest) = some T
  | [], parent, above, i => by
      rw [trailsFrom]
      exact ⟨nofun, fun ⟨_, _, _, h⟩ => nomatch h⟩
  | n :: ns, parent, above, i => by
      rw [trailsFrom, List.mem_append, Node.mem_trailsAt, mem_trailsFrom]
      constructor
      · rintro (⟨rest, rfl, h⟩ | ⟨j, rest, rfl, h⟩)
        · exact ⟨0, rest, by simp, h⟩
        · exact ⟨j + 1, rest, by rw [Nat.add_right_comm, Nat.add_assoc], h⟩
      · rintro ⟨j, rest, rfl, h⟩
        cases j with
        | zero => exact .inl ⟨rest, by simp, h⟩
        | succ j => exact .inr ⟨j, rest, by rw [Nat.add_right_comm, Nat.add_assoc], h⟩

end

/-- The elements of a tree are those that have a trail. -/
theorem mem_trails : (q, T) ∈ trails nodes ↔ q ≠ [] ∧ trailFrom? [] nodes q = some T := by
  rw [trails, mem_trailsFrom]
  constructor
  · rintro ⟨j, rest, rfl, h⟩
    rw [Nat.zero_add]
    exact ⟨by simp, h⟩
  · rintro ⟨hq, h⟩
    cases q with
    | nil => exact absurd rfl hq
    | cons j rest => exact ⟨j, rest, by rw [Nat.zero_add]; rfl, h⟩

/-- The trail of an element ends with the trails of those around it. -/
theorem trailFrom?_append {p r : Index} :
    ∀ {above : Trail} {nodes : List Node}, trailFrom? above nodes (p ++ r) = some T →
      ∃ inner outer, trailFrom? above nodes p = some outer ∧ T = inner ++ outer ∧
        inner.length = r.length := by
  induction p with
  | nil =>
      intro above nodes h
      induction r generalizing above nodes with
      | nil => cases h; exact ⟨[], _, rfl, rfl, rfl⟩
      | cons i r ih =>
          rw [List.nil_append, trailFrom?] at h
          split at h
          · rename_i tag attributes children hi
            obtain ⟨inner, outer, houter, rfl, hlen⟩ := ih h
            cases houter
            exact ⟨inner ++ [(tag, attributes)], _, rfl, by simp, by simp [hlen]⟩
          · cases h
  | cons i p ih =>
      intro above nodes h
      rw [List.cons_append, trailFrom?] at h
      split at h
      · rename_i tag attributes children hi
        obtain ⟨inner, outer, houter, hT, hlen⟩ := ih h
        refine ⟨inner, outer, ?_, hT, hlen⟩
        rw [trailFrom?, hi]
        exact houter
      · cases h

/-- A trail has an entry for each position of the index. -/
theorem length_of_trailFrom? (h : trailFrom? above nodes q = some T) :
    T.length = q.length + above.length := by
  obtain ⟨inner, outer, houter, rfl, hlen⟩ := trailFrom?_append (p := []) h
  cases houter
  rw [List.length_append, hlen]

/-! ### Document order -/

mutual

theorem Node.pairwise_lt_trailsAt : ∀ {n : Node} {index : Index} {above : Trail},
    (n.trailsAt index above).Pairwise fun x y => x.1 < y.1
  | .text content, index, above => by rw [Node.trailsAt]; exact .nil
  | .element tag attributes children, index, above => by
      rw [Node.trailsAt]
      refine List.pairwise_cons.mpr ⟨fun (q, T) hq => ?_, pairwise_lt_trailsFrom⟩
      obtain ⟨j, rest, rfl, -⟩ := mem_trailsFrom.mp hq
      -- an index comes before those that continue it
      have hlt : index ++ [] < index ++ (0 + j) :: rest :=
        List.append_left_lt (List.nil_lt_cons _ _)
      rwa [List.append_nil] at hlt

theorem pairwise_lt_trailsFrom : ∀ {ns : List Node} {parent : Index} {above : Trail} {i : Nat},
    (trailsFrom parent above i ns).Pairwise fun x y => x.1 < y.1
  | [], parent, above, i => by rw [trailsFrom]; exact .nil
  | n :: ns, parent, above, i => by
      rw [trailsFrom]
      refine List.pairwise_append.mpr
        ⟨Node.pairwise_lt_trailsAt, pairwise_lt_trailsFrom, fun (q, T) hq (r, U) hr => ?_⟩
      obtain ⟨rest, rfl, -⟩ := Node.mem_trailsAt.mp hq
      obtain ⟨j, rest', rfl, -⟩ := mem_trailsFrom.mp hr
      rw [List.append_assoc]
      exact List.append_left_lt (List.cons_lt_cons_iff.mpr (.inl (by omega)))

end

/-- **Document order is the lexicographic order of the indices.** -/
theorem pairwise_lt_trails : ((trails nodes).map (·.1)).Pairwise (· < ·) :=
  List.pairwise_map.mpr pairwise_lt_trailsFrom

/-! ### Trails and nodes -/

/-- The innermost element of a trail is the one that stands at the index. -/
theorem exists_trailFrom?_iff {tag : String} {attributes : Attributes} (hq : q ≠ []) :
    (∃ outer, trailFrom? above nodes q = some ((tag, attributes) :: outer)) ↔
      ∃ children, nodeAt? nodes q = some (.element tag attributes children) := by
  induction q generalizing above nodes with
  | nil => exact absurd rfl hq
  | cons i r ih =>
      rw [trailFrom?]
      cases r with
      | nil =>
          rw [nodeAt?]
          cases nodes[i]? with
          | none => simp
          | some n => cases n <;> simp [trailFrom?]
      | cons j r =>
          rw [nodeAt?_cons (List.cons_ne_nil _ _)]
          cases nodes[i]? with
          | none => simp
          | some n =>
              cases n with
              | text content => simp [Node.children, nodeAt?_nil]
              | element tag' attributes' children => exact ih (List.cons_ne_nil _ _)

end MarkupTemplates.Markup

namespace MarkupTemplates.Path

open Markup (Node Index Trail trails trailFrom? mem_trails)

/-! ### Where paths lead -/

/-- Whether going in a direction from an element with a trail that satisfies `P` can lead to an
element in elements with the trail `outer`. -/
def Axis.leads (P : Trail → Bool) (outer : Trail) : Axis → Bool
  | .child => P outer
  | .descendant => outer.tails.any P

/-- Whether a step leads to a trail from the trails that satisfy `P`. -/
def Step.leads (P : Trail → Bool) (step : Step) : Trail → Bool
  | [] => false
  | (tag, attributes) :: outer => step.accepts tag attributes && step.axis.leads P outer

/-- Whether steps lead from the top of a tree to a trail. -/
def stepsLead (steps : List Step) : Trail → Bool := steps.foldl Step.leads List.isEmpty

variable {nodes : List Node} {context : List Index} {P : Trail → Bool}

/-- The context holds the indices whose trails satisfy `P`. -/
def Traces (nodes : List Node) (context : List Index) (P : Trail → Bool) : Prop :=
  ∀ index, index ∈ context ↔ ∃ T, trailFrom? [] nodes index = some T ∧ P T = true

theorem traces_top : Traces nodes [[]] List.isEmpty := by
  intro index
  rw [List.mem_singleton]
  constructor
  · rintro rfl
    exact ⟨[], rfl, rfl⟩
  · rintro ⟨T, hT, hempty⟩
    have hlen := Markup.length_of_trailFrom? hT
    rw [List.isEmpty_iff.mp hempty] at hlen
    exact List.eq_nil_of_length_eq_zero (by simpa using hlen.symm)

/-- A direction leads to an index if it leads to its trail. -/
theorem Traces.exists_reaches_iff (h : Traces nodes context P) {axis : Axis} {index : Index}
    {x : String × Markup.Attributes} {outer : Trail}
    (hT : trailFrom? [] nodes index = some (x :: outer)) :
    (∃ base ∈ context, axis.Reaches base index) ↔ axis.leads P outer = true := by
  cases axis with
  | child =>
      -- the trail of the parent is the rest of the trail
      have hparent : ∀ base i, index = base ++ [i] → trailFrom? [] nodes base = some outer := by
        rintro base i rfl
        obtain ⟨inner, outer', houter, happend, hlen⟩ := Markup.trailFrom?_append hT
        obtain ⟨y, rfl⟩ := List.length_eq_one_iff.mp hlen
        cases happend
        exact houter
      simp only [Axis.reaches_child_iff, Axis.leads]
      constructor
      · rintro ⟨base, hbase, i, hi⟩
        obtain ⟨T, hT', hP⟩ := (h _).mp hbase
        cases (hparent base i hi).symm.trans hT'
        exact hP
      · intro hP
        rcases List.eq_nil_or_concat index with rfl | ⟨base, i, hi⟩
        · cases hT
        · rw [List.concat_eq_append] at hi
          exact ⟨base, (h _).mpr ⟨outer, hparent base i hi, hP⟩, i, hi⟩
  | descendant =>
      simp only [Axis.reaches_descendant_iff, Axis.leads, List.any_eq_true, List.mem_tails]
      constructor
      · rintro ⟨base, hbase, r, hr, rfl⟩
        obtain ⟨T, hT', hP⟩ := (h _).mp hbase
        obtain ⟨inner, outer', houter, happend, hlen⟩ := Markup.trailFrom?_append hT
        cases hT'.symm.trans houter
        refine ⟨T, ?_, hP⟩
        cases inner with
        | nil => exact absurd (List.eq_nil_of_length_eq_zero hlen.symm) hr
        | cons y inner => cases happend; exact List.suffix_append inner T
      · rintro ⟨T, ⟨inner, rfl⟩, hP⟩
        -- the element with this trail is as many steps up as the trail is shorter
        have hlen := Markup.length_of_trailFrom? hT
        simp only [List.length_cons, List.length_append, List.length_nil, Nat.add_zero] at hlen
        rw [← List.take_append_drop T.length index] at hT
        obtain ⟨inner', outer', houter, happend, hlen'⟩ := Markup.trailFrom?_append hT
        rw [← List.cons_append] at happend
        have hT' := (List.append_inj happend (by simp at hlen' ⊢; omega)).2
        subst hT'
        refine ⟨_, (h _).mpr ⟨_, houter, hP⟩, index.drop T.length, ?_,
          (List.take_append_drop _ _).symm⟩
        rw [ne_eq, List.drop_eq_nil_iff]
        omega

/-- A step finds the indices whose trails it leads to. -/
theorem Traces.mem_select_iff (h : Traces nodes context P) (step : Step) {index : Index} :
    index ∈ step.select nodes context ↔
      ∃ T, trailFrom? [] nodes index = some T ∧ step.leads P T = true := by
  rw [Step.mem_select]
  constructor
  · rintro ⟨base, hbase, hreaches, hmeets⟩
    obtain ⟨n, hn, hadmits⟩ := Step.meets_iff.mp hmeets
    cases n with
    | text content => cases hadmits
    | element tag attributes children =>
        have hne : index ≠ [] := by rintro rfl; cases hn
        obtain ⟨outer, hT⟩ := (Markup.exists_trailFrom?_iff hne).mpr ⟨children, hn⟩
        refine ⟨_, hT, ?_⟩
        rw [Step.leads, Bool.and_eq_true, ← h.exists_reaches_iff hT]
        exact ⟨hadmits, base, hbase, hreaches⟩
  · rintro ⟨T, hT, hleads⟩
    cases T with
    | nil => cases hleads
    | cons x outer =>
        -- no step leads to the top
        have hne : index ≠ [] := by rintro rfl; cases hT
        rw [Step.leads, Bool.and_eq_true, ← h.exists_reaches_iff hT] at hleads
        obtain ⟨haccepts, base, hbase, hreaches⟩ := hleads
        obtain ⟨children, hn⟩ := (Markup.exists_trailFrom?_iff hne).mp ⟨outer, hT⟩
        exact ⟨base, hbase, hreaches, Step.meets_iff.mpr ⟨_, hn, haccepts⟩⟩

theorem Traces.select (h : Traces nodes context P) (step : Step) :
    Traces nodes (step.select nodes context) (step.leads P) :=
  fun _ => h.mem_select_iff step

/-- Steps that are taken one after the other are traced to the end. -/
theorem Traces.foldl {steps : List Step} (h : Traces nodes context P) :
    Traces nodes (steps.foldl (Step.select nodes) context) (steps.foldl Step.leads P) := by
  induction steps generalizing context P with
  | nil => exact h
  | cons step steps ih => exact ih (h.select step)

end MarkupTemplates.Path

namespace MarkupTemplates

open Markup (Node Index Trail trails trailFrom? mem_trails)

/-- Whether a path leads from the top of a tree to a trail. -/
def Path.leads (path : Path) : Trail → Bool := Path.stepsLead path.steps

/-- A path addresses the indices whose trails its steps lead to, but for the top. -/
theorem Path.mem_select_iff_leads {path : Path} {nodes : List Node} {index : Index} :
    index ∈ path.select nodes ↔
      index ≠ [] ∧ ∃ T, trailFrom? [] nodes index = some T ∧ path.leads T = true := by
  rw [select, List.mem_filter, Path.traces_top.foldl index, decide_eq_true_iff, and_comm]
  rfl

/-- **A path addresses the elements to whose trails it leads**, in document order. -/
theorem Path.select_eq (path : Path) (nodes : List Node) :
    path.select nodes = ((trails nodes).filter fun x => path.leads x.2).map (·.1) := by
  refine (path.pairwise_lt_select nodes).eq_of_mem_iff
    (Markup.pairwise_lt_trails.sublist (List.filter_sublist.map _)) fun index => ?_
  rw [mem_select_iff_leads, List.mem_map]
  constructor
  · rintro ⟨hne, T, hT, hleads⟩
    exact ⟨(index, T), List.mem_filter.mpr ⟨mem_trails.mpr ⟨hne, hT⟩, hleads⟩, rfl⟩
  · rintro ⟨⟨index, T⟩, hx, rfl⟩
    obtain ⟨hx, hleads⟩ := List.mem_filter.mp hx
    exact ⟨(mem_trails.mp hx).1, T, (mem_trails.mp hx).2, hleads⟩

end MarkupTemplates
