import Mathlib.Data.List.Chain
import Mathlib.Data.List.Nodup
import MarkupTemplates.Proofs.Dependency.Reach

/-!
# Ways and circles

A *way* goes from an id along direct dependencies and never comes back to where it has been
(`Graph.IsWay`).  It is listed from its end to its beginning, like the ids above a walk.  A
dependency that leads from the end of a way back to the way closes a *circle*
(`IsWay.isCircle_circle`).
-/

namespace MarkupTemplates.Graph

open Relation (ReflTransGen)

variable {g : Graph} {id a b t : String} {way chain : List String}

/-- The ids lead along direct dependencies from `id`, the last of them, to the first, and none of
them comes twice. -/
structure IsWay (g : Graph) (id : String) (way : List String) : Prop where
  /-- Each id is a direct dependency of the next. -/
  chain : way.IsChain fun b a => g.Needs a b
  /-- No id comes twice. -/
  nodup : way.Nodup
  /-- The way begins with `id`. -/
  last : way.getLast? = some id

/-- The ids depend directly on each other in a circle; the first stands at both ends, and no other
id comes twice. -/
structure IsCircle (g : Graph) (chain : List String) : Prop where
  /-- The first id stands at both ends. -/
  two_le : 2 ≤ chain.length
  /-- The last id is the first. -/
  closed : chain.head? = chain.getLast?
  /-- No other id comes twice. -/
  nodup : chain.dropLast.Nodup
  /-- Each id is a direct dependency of the one before it. -/
  chain : chain.IsChain g.Needs

theorem isWay_singleton (g : Graph) (id : String) : g.IsWay id [id] :=
  ⟨.singleton id, by simp, rfl⟩

namespace IsWay

/-- A way goes on to what its last id needs, if that is not on it yet. -/
theorem cons (h : g.IsWay id (a :: way)) (hn : g.Needs a b) (hb : b ∉ a :: way) :
    g.IsWay id (b :: a :: way) where
  chain := .cons_cons hn h.chain
  nodup := List.nodup_cons.mpr ⟨hb, h.nodup⟩
  last := by rw [List.getLast?_cons_cons]; exact h.last

/-- A way passes only by what its beginning reaches. -/
theorem reaches (h : g.IsWay id way) : ∀ x ∈ way, g.Reaches id x := by
  induction way with
  | nil => simp
  | cons b rest ih =>
      cases rest with
      | nil =>
          intro x hx
          obtain rfl : b = id := by simpa using h.last
          rw [List.mem_singleton.mp hx]; exact .refl
      | cons a rest =>
          obtain ⟨hn, hchain⟩ := List.isChain_cons_cons.mp h.chain
          have hlast := h.last
          rw [List.getLast?_cons_cons] at hlast
          have hrest := ih ⟨hchain, (List.nodup_cons.mp h.nodup).2, hlast⟩
          intro x hx
          rcases List.mem_cons.mp hx with rfl | hx
          · exact .tail (hrest a (by simp)) hn
          · exact hrest x hx

/-- **A dependency that leads back to the way closes a circle** of ids on the way. -/
theorem isCircle_circle (h : g.IsWay id (a :: way)) (hn : g.Needs a t) (ht : t ∈ a :: way) :
    g.IsCircle (circle t (a :: way)) ∧ ∀ x ∈ circle t (a :: way), x ∈ a :: way := by
  -- the circle is the way up to the first `t`, turned round, and `t` once more
  obtain ⟨before, after, hway, hnot⟩ := List.eq_append_cons_of_mem ht
  have hway : a :: way = (before ++ [t]) ++ after := by simp [hway]
  have hcircle : circle t (a :: way) = (before ++ [t]).reverse ++ [t] := by
    have hbefore : ∀ x ∈ before, (x != t) = true := fun x hx => bne_iff_ne.mpr fun e => hnot (e ▸ hx)
    rw [circle, hway, List.append_assoc, List.takeWhile_append_of_pos hbefore]
    simp
  have hhead : (before ++ [t]).head? = some a := by
    have := congrArg List.head? hway
    rw [List.head?_append_of_ne_nil _ (by simp)] at this
    exact this.symm
  have hchain : (before ++ [t]).IsChain fun b a => g.Needs a b :=
    (hway ▸ h.chain).left_of_append
  have hnodup : (before ++ [t]).Nodup := (hway ▸ h.nodup).of_append_left
  rw [hcircle]
  refine ⟨⟨by simp, ?_, ?_, ?_⟩, fun x hx => ?_⟩
  · rw [List.getLast?_concat, List.reverse_append]; rfl
  · rw [List.dropLast_concat]; exact List.nodup_reverse.mpr hnodup
  · refine List.isChain_append.mpr ⟨List.isChain_reverse.mpr hchain, .singleton t, ?_⟩
    intro x hx y hy
    rw [List.getLast?_reverse, hhead] at hx
    cases hx; cases hy; exact hn
  · rw [hway]
    have : x ∈ before ++ [t] := by
      rcases List.mem_append.mp hx with hx | hx
      · exact List.mem_reverse.mp hx
      · exact List.mem_append_right _ hx
    exact List.mem_append_left _ this

end IsWay

end MarkupTemplates.Graph
