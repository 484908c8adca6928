import Mathlib.Data.List.Perm.Basic
import MarkupTemplates.Proofs.Dependency.Faults
import MarkupTemplates.Proofs.Yields

/-!
# The order of all ids

`Graph.compileOrder` visits the ids depth first and passes over dependencies without a definition.
Such a walk is a strict one through the graph that has forgotten those dependencies
(`Graph.definedPart`, `walk_eq_walk_definedPart`), so that what is known of strict walks applies.

* `compileOrder_eq_ok`: an order has each id once, after all that the id requires (`Graph.Ordered`).
* `compileOrder_eq_error`: without an order, ids require each other in a circle.
* `exists_compileOrder_iff`: there is an order exactly if no id requires itself.
-/

namespace MarkupTemplates.Graph

open Relation (TransGen ReflTransGen)

variable {g : Graph} {a b id : String}

/-- The id `a` depends directly on `b`, which has a definition. -/
def Requires (g : Graph) (a b : String) : Prop := g.Needs a b ∧ g.isDefined b = true

/-! ### Dependencies that have a definition -/

/-- The graph without the dependencies that have no definition; every id counts as defined. -/
def definedPart (g : Graph) : Graph :=
  ⟨g.vertices.map fun v => ⟨v.id, v.dependencies.filter g.isDefined, true⟩⟩

theorem vertex?_definedPart (g : Graph) (id : String) :
    g.definedPart.vertex? id =
      (g.vertex? id).map fun v => ⟨v.id, v.dependencies.filter g.isDefined, true⟩ := by
  rw [vertex?, definedPart, List.find?_map]; rfl

/-- Of its dependencies an id keeps those that have a definition. -/
theorem dependencies_definedPart (g : Graph) (id : String) :
    g.definedPart.dependencies id = (g.dependencies id).filter g.isDefined := by
  rw [dependencies, dependencies, vertex?_definedPart]
  cases g.vertex? id <;> rfl

/-- Every known id counts as defined. -/
theorem isDefined_definedPart (g : Graph) (id : String) :
    g.definedPart.isDefined id = g.isKnown id := by
  rw [isDefined, isKnown, vertex?_definedPart]
  cases g.vertex? id <;> rfl

theorem isDefined_definedPart_of_isDefined (h : g.isDefined id = true) :
    g.definedPart.isDefined id = true :=
  (isDefined_definedPart g id).trans (isKnown_of_isDefined h)

theorem isKnown_definedPart (g : Graph) (id : String) :
    g.definedPart.isKnown id = g.isKnown id := by
  rw [isKnown, isKnown, vertex?_definedPart, Option.isSome_map]

/-- An id needs there what it requires. -/
theorem needs_definedPart : g.definedPart.Needs a b ↔ g.Requires a b := by
  rw [Needs, dependencies_definedPart, List.mem_filter]; rfl

theorem mem_ids_iff : id ∈ g.vertices.map (·.id) ↔ g.isKnown id = true := by
  simp [isKnown, vertex?]

/-- An id that requires another is known. -/
theorem Requires.isKnown (h : g.Requires a b) : g.isKnown a = true := by
  have hmem : b ∈ g.dependencies a := h.1
  rw [dependencies] at hmem
  rw [Graph.isKnown]
  cases hv : g.vertex? a with
  | none => rw [hv] at hmem; cases hmem
  | some v => rfl

/-- **A walk that passes over dependencies without a definition** is a strict walk through the graph
that has forgotten them. -/
theorem walk_eq_walk_definedPart (current : String) (above finished targets : List String) :
    g.walk false current above finished targets =
      g.definedPart.walk true current above finished (targets.filter g.isDefined) := by
  generalize hstrict : false = strict
  -- the two walks go down, or pass over a finished target, at the same places
  fun_induction walk g strict current above finished targets with
  | case1 => rw [List.filter_nil, walk]
  | case2 current above finished t ts hd hw =>
      rw [List.filter_cons_of_pos hd, walk, dif_pos (isDefined_definedPart_of_isDefined hd),
        dif_pos hw]
  | case3 current above finished t ts hd hw hmem ih =>
      rw [List.filter_cons_of_pos hd, walk, dif_pos (isDefined_definedPart_of_isDefined hd),
        dif_neg hw, if_pos hmem]
      exact ih
  | case4 current above finished t ts hd hw hmem e he ih =>
      rw [List.filter_cons_of_pos hd, walk, dif_pos (isDefined_definedPart_of_isDefined hd),
        dif_neg hw, if_neg hmem, dependencies_definedPart, ← ih, he]
  | case5 current above finished t ts hd hw hmem inner hinner ihIn ih =>
      rw [List.filter_cons_of_pos hd, walk, dif_pos (isDefined_definedPart_of_isDefined hd),
        dif_neg hw, if_neg hmem, dependencies_definedPart, ← ihIn, hinner]
      exact ih
  | case6 current above finished t ts hd hs => rw [← hstrict] at hs; cases hs
  | case7 current above finished t ts hd hs ih =>
      rw [List.filter_cons_of_neg hd]
      exact ih

/-! ### Ordered lists -/

/-- The ids come once each, and each after all that it requires. -/
structure Ordered (g : Graph) (ids : List String) : Prop where
  /-- No id comes twice. -/
  nodup : ids.Nodup
  /-- What an id requires comes before it. -/
  mem_before : ∀ before id after, ids = before ++ id :: after → ∀ d, g.Requires id d → d ∈ before

namespace Ordered

variable {ids : List String}

theorem nil : g.Ordered [] := ⟨.nil, fun _ _ _ h => by simp at h⟩

/-- An id may be put behind an ordered list that has all that it requires. -/
theorem concat (h : g.Ordered ids) (hid : id ∉ ids) (hrequires : ∀ d, g.Requires id d → d ∈ ids) :
    g.Ordered (ids ++ [id]) where
  nodup := by rw [← List.concat_eq_append]; exact h.nodup.concat hid
  mem_before before x after heq d hd := by
    rcases List.eq_nil_or_concat after with rfl | ⟨rest, last, rfl⟩
    · obtain ⟨rfl, hx⟩ := List.append_inj' heq rfl
      cases hx
      exact hrequires d hd
    · rw [List.concat_eq_append, ← List.cons_append, ← List.append_assoc] at heq
      obtain ⟨hids, -⟩ := List.append_inj' heq rfl
      exact h.mem_before before x rest hids d hd

/-- What an id requires stands at an earlier place. -/
theorem idxOf_lt (h : g.Ordered ids) (ha : a ∈ ids) (hab : g.Requires a b) :
    b ∈ ids ∧ ids.idxOf b < ids.idxOf a := by
  obtain ⟨before, after, rfl, hnot⟩ := List.eq_append_cons_of_mem ha
  have hb := h.mem_before before a after rfl b hab
  refine ⟨List.mem_append_left _ hb, ?_⟩
  rw [List.idxOf_append_of_mem hb, List.idxOf_append_of_notMem hnot, List.idxOf_cons_self,
    Nat.add_zero]
  exact List.idxOf_lt_length_of_mem hb

/-- No id of an ordered list requires itself. -/
theorem not_transGen (h : g.Ordered ids) (ha : a ∈ ids) : ¬ TransGen g.Requires a a := by
  have hlt : ∀ {x}, TransGen g.Requires a x → x ∈ ids ∧ ids.idxOf x < ids.idxOf a := by
    intro x hx
    induction hx with
    | single hab => exact h.idxOf_lt ha hab
    | tail _ hxy ih =>
        obtain ⟨hmem, hle⟩ := ih
        obtain ⟨hmem', hlt'⟩ := h.idxOf_lt hmem hxy
        exact ⟨hmem', Nat.lt_trans hlt' hle⟩
  exact fun hcirc => Nat.lt_irrefl _ (hlt hcirc).2

end Ordered

/-! ### Walks that succeed -/

/-- **A walk keeps the finished ids ordered.**  It adds ids with a definition that are not on its
way, until it has finished all targets that have a definition. -/
theorem ordered_of_walk {current : String} {above finished targets after : List String}
    (h : g.walk false current above finished targets = .ok after) (hf : g.Ordered finished)
    (hway : ∀ x ∈ current :: above, x ∉ finished) :
    g.Ordered after ∧ (∀ t ∈ targets, g.isDefined t = true → t ∈ after) ∧
      ∃ new, after = finished ++ new ∧
        ∀ x ∈ new, x ∉ current :: above ∧ g.isDefined x = true := by
  generalize hstrict : false = strict at h
  fun_induction walk g strict current above finished targets generalizing after with
  | case1 => cases h; exact ⟨hf, by simp, [], by simp, by simp⟩
  | case2 => cases h
  | case3 current above finished t ts hd hw hmem ih =>
      obtain ⟨hordered, htargets, new, rfl, hnew⟩ := ih hf hway h
      refine ⟨hordered, List.forall_mem_cons.mpr ⟨fun _ => ?_, htargets⟩, new, rfl, hnew⟩
      exact List.mem_append_left _ (by simpa using hmem)
  | case4 => cases h
  | case5 current above finished t ts hd hw hmem inner hinner ihIn ih =>
      have hmem : t ∉ finished := by simpa using hmem
      have hwayIn : ∀ x ∈ t :: current :: above, x ∉ finished :=
        List.forall_mem_cons.mpr ⟨hmem, hway⟩
      obtain ⟨hinnerOrdered, hneeded, below, rfl, hbelow⟩ := ihIn hf hwayIn hinner
      -- the walk below `t` has not come back to `t` or to the way above it
      have hnot : ∀ x ∈ t :: current :: above, x ∉ finished ++ below := by
        intro x hx hxmem
        rcases List.mem_append.mp hxmem with hxmem | hxmem
        · exact hwayIn x hx hxmem
        · exact (hbelow x hxmem).1 hx
      have hconcat : g.Ordered (finished ++ below ++ [t]) :=
        hinnerOrdered.concat (hnot t List.mem_cons_self) fun d hd => hneeded d hd.1 hd.2
      have hwayOn : ∀ x ∈ current :: above, x ∉ finished ++ below ++ [t] := by
        intro x hx hxmem
        rcases List.mem_append.mp hxmem with hxmem | hxmem
        · exact hnot x (List.mem_cons_of_mem t hx) hxmem
        · rw [List.mem_singleton.mp hxmem] at hx; exact hw hx
      obtain ⟨hordered, htargets, new, rfl, hnew⟩ := ih hconcat hwayOn h
      refine ⟨hordered, List.forall_mem_cons.mpr ⟨fun _ => ?_, htargets⟩, below ++ [t] ++ new,
        by simp, ?_⟩
      · exact List.mem_append_left _ (by simp)
      · intro x hx
        rcases List.mem_append.mp hx with hx | hx
        · rcases List.mem_append.mp hx with hx | hx
          · exact ⟨fun hxway => (hbelow x hx).1 (List.mem_cons_of_mem t hxway), (hbelow x hx).2⟩
          · rw [List.mem_singleton.mp hx]; exact ⟨hw, hd⟩
        · exact hnew x hx
  | case6 current above finished t ts hd hs => rw [← hstrict] at hs; cases hs
  | case7 current above finished t ts hd hs ih =>
      obtain ⟨hordered, htargets, hnew⟩ := ih hf hway h
      exact ⟨hordered, List.forall_mem_cons.mpr ⟨fun hd' => absurd hd' hd, htargets⟩, hnew⟩

/-- Finishing an id puts it, and before it what it requires, behind the ordered list. -/
theorem ordered_of_finishWith {finished after : List String}
    (h : g.finishWith finished id = .ok after) (hf : g.Ordered finished) :
    g.Ordered after ∧ id ∈ after ∧ ∃ new, after = finished ++ new ∧
      ∀ x ∈ new, x = id ∨ g.isDefined x = true := by
  rw [finishWith] at h
  split at h
  · rename_i hmem
    cases h
    exact ⟨hf, by simpa using hmem, [], by simp, nofun⟩
  · rename_i hmem
    have hmem : id ∉ finished := by simpa using hmem
    cases hw : g.walk false id [] finished (g.dependencies id) with
    | error e => rw [hw] at h; cases h
    | ok found =>
        rw [hw] at h; cases h
        obtain ⟨hordered, hneeded, new, rfl, hnew⟩ :=
          ordered_of_walk hw hf (List.forall_mem_singleton.mpr hmem)
        have hid : id ∉ finished ++ new := fun hin => by
          rcases List.mem_append.mp hin with hin | hin
          · exact hmem hin
          · exact (hnew id hin).1 List.mem_cons_self
        refine ⟨hordered.concat hid fun d hd => hneeded d hd.1 hd.2, by simp, new ++ [id],
          by simp, fun x hx => ?_⟩
        rcases List.mem_append.mp hx with hx | hx
        · exact .inr (hnew x hx).2
        · exact .inl (List.mem_singleton.mp hx)

/-- Finishing one id after the other keeps the list ordered, and all of them are in it then. -/
theorem ordered_of_foldlM {ids finished after : List String}
    (h : ids.foldlM g.finishWith finished = .ok after) (hf : g.Ordered finished)
    (hids : ∀ x ∈ ids, g.isKnown x = true) (hknown : ∀ x ∈ finished, g.isKnown x = true) :
    g.Ordered after ∧ ids ⊆ after ∧ finished ⊆ after ∧ ∀ x ∈ after, g.isKnown x = true := by
  induction ids generalizing finished with
  | nil => cases h; exact ⟨hf, nofun, fun _ hx => hx, hknown⟩
  | cons id ids ih =>
      obtain ⟨hid, hids⟩ := List.forall_mem_cons.mp hids
      rw [List.foldlM_cons] at h
      cases hnext : g.finishWith finished id with
      | error e => rw [hnext] at h; cases h
      | ok next =>
          rw [hnext] at h
          obtain ⟨hordered, hmem, new, rfl, hnew⟩ := ordered_of_finishWith hnext hf
          have hknown' : ∀ x ∈ finished ++ new, g.isKnown x = true := fun x hx => by
            rcases List.mem_append.mp hx with hx | hx
            · exact hknown x hx
            · rcases hnew x hx with rfl | hd
              · exact hid
              · exact isKnown_of_isDefined hd
          obtain ⟨hafter, hsub, hkept, hall⟩ := ih h hordered hids hknown'
          exact ⟨hafter, List.cons_subset.mpr ⟨hkept hmem, hsub⟩,
            fun x hx => hkept (List.mem_append_left _ hx), hall⟩

/-- **An order has each id once**, after all that the id requires. -/
theorem compileOrder_eq_ok {order : List String} (h : g.compileOrder = .ok order) :
    g.Ordered order ∧ ∀ x, x ∈ order ↔ x ∈ g.vertices.map (·.id) := by
  obtain ⟨hordered, hsub, -, hknown⟩ :=
    ordered_of_foldlM h .nil (fun x hx => mem_ids_iff.mp hx) nofun
  exact ⟨hordered, fun x => ⟨fun hx => mem_ids_iff.mpr (hknown x hx), fun hx => hsub hx⟩⟩

/-! ### Walks that fail -/

/-- A circle leads from each end to itself. -/
theorem IsCircle.exists_transGen {chain : List String} (h : g.IsCircle chain) :
    ∃ x ∈ chain, TransGen g.Needs x x := by
  obtain ⟨a, b, rest, rfl⟩ : ∃ a b rest, chain = a :: b :: rest := by
    match chain, h.two_le with
    | a :: b :: rest, _ => exact ⟨a, b, rest, rfl⟩
  obtain ⟨hab, hchain⟩ := List.isChain_cons_cons.mp h.chain
  have hlast := List.relationReflTransGen_of_exists_isChain_cons rest hchain rfl
  have hclosed : (b :: rest).getLast (List.cons_ne_nil b rest) = a := by
    have := h.closed
    rw [List.head?_cons, List.getLast?_cons_cons, List.getLast?_eq_getLast_of_ne_nil (by simp)]
      at this
    exact (Option.some.inj this).symm
  rw [hclosed] at hlast
  exact ⟨a, List.mem_cons_self, TransGen.head' hab hlast⟩

/-- **Without an order, ids require each other in a circle**, and the error says which. -/
theorem compileOrder_eq_error {e : ResolutionError} (h : g.compileOrder = .error e) :
    ∃ chain, e = .cycle chain ∧ g.definedPart.IsCircle chain := by
  obtain ⟨id, hid, finished, hfinish⟩ := exists_of_foldlM_eq_error h
  have hid : g.isKnown id = true := mem_ids_iff.mp hid
  rw [finishWith] at hfinish
  split at hfinish
  · cases hfinish
  · cases hw : g.walk false id [] finished (g.dependencies id) with
    | ok after => rw [hw] at hfinish; cases hfinish
    | error e' =>
        rw [hw] at hfinish; cases hfinish
        rw [walk_eq_walk_definedPart] at hw
        have hdefined : ∀ x, g.definedPart.isDefined x = g.isKnown x := isDefined_definedPart g
        have hfault := fault_of_walk hw (isWay_singleton _ id) fun t ht => by
          rw [Needs, dependencies_definedPart]; exact ht
        cases hfault with
        | notFound hunknown => rw [isKnown_definedPart, hid] at hunknown; cases hunknown
        | undefined _ hundefined => rw [hdefined, hid] at hundefined; cases hundefined
        | @missingTarget a b _ hab hundefined =>
            have hb := isKnown_of_isDefined (needs_definedPart.mp hab).2
            rw [hdefined, hb] at hundefined; cases hundefined
        | cycle hcircle _ => exact ⟨_, rfl, hcircle⟩

/-- **There is an order exactly if no id requires itself.** -/
theorem exists_compileOrder_iff :
    (∃ order, g.compileOrder = .ok order) ↔ ∀ x, ¬ TransGen g.Requires x x := by
  constructor
  · rintro ⟨order, horder⟩ x hx
    obtain ⟨hordered, hmem⟩ := compileOrder_eq_ok horder
    obtain ⟨y, hxy, -⟩ := TransGen.head'_iff.mp hx
    exact hordered.not_transGen ((hmem x).mpr (mem_ids_iff.mpr hxy.isKnown)) hx
  · intro hacyclic
    cases h : g.compileOrder with
    | ok order => exact ⟨order, rfl⟩
    | error e =>
        obtain ⟨chain, -, hcircle⟩ := compileOrder_eq_error h
        obtain ⟨x, -, hx⟩ := hcircle.exists_transGen
        exact absurd (hx.lift id fun _ _ => needs_definedPart.mp) (hacyclic x)

end MarkupTemplates.Graph
