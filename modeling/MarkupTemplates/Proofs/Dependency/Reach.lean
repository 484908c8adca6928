import Mathlib.Logic.Relation
import MarkupTemplates.Dependency.Walk

/-!
# What an id reaches

`Graph.Reaches` is the closure of the direct dependencies.  An id is *sound* (`Graph.Sound`) when
everything it reaches has a definition and nothing it reaches depends on itself.

* `checkFrom_eq_ok_iff`: the check of an id succeeds exactly when the id is sound.  The walk visits
  ids in the order of the graph; whether it succeeds does not depend on that order.
* `checkFrom_congr`: the check of an id, its error included, depends on no more of the graph than
  what the id reaches.
* `dependency_induction`: what passes from the direct dependencies of every sound id to the id
  itself holds of all ids.
-/

namespace MarkupTemplates.Graph

open Relation (ReflTransGen TransGen)

variable {g g' : Graph} {a b id : String}

/-! ### Reaching -/

theorem isKnown_of_isDefined (h : g.isDefined id = true) : g.isKnown id = true := by
  rw [isDefined] at h
  rw [isKnown]
  cases hv : g.vertex? id with
  | none => rw [hv] at h; cases h
  | some v => rfl

/-- The id `a` depends directly on `b`. -/
def Needs (g : Graph) (a b : String) : Prop := b ∈ g.dependencies a

/-- The id `b` is `a` or one that `a` depends on, directly or not. -/
def Reaches (g : Graph) : String → String → Prop := ReflTransGen g.Needs

/-- Everything that `id` reaches has a definition and does not depend on itself. -/
def Sound (g : Graph) (id : String) : Prop :=
  ∀ x, g.Reaches id x → g.isDefined x = true ∧ ¬ TransGen g.Needs x x

theorem Sound.isDefined (h : g.Sound id) : g.isDefined id = true := (h id .refl).1

/-- What a sound id reaches is sound. -/
theorem Sound.of_reaches (h : g.Sound a) (hr : g.Reaches a b) : g.Sound b :=
  fun x hx => h x (ReflTransGen.trans hr hx)

theorem Sound.of_needs (h : g.Sound a) (hn : g.Needs a b) : g.Sound b :=
  h.of_reaches (.single hn)

/-- A defined id is sound once those it depends on are. -/
theorem sound_of_needs (hd : g.isDefined id = true) (h : ∀ t, g.Needs id t → g.Sound t) :
    g.Sound id := by
  intro x hx
  rcases ReflTransGen.cases_head hx with rfl | ⟨t, ht, htx⟩
  · refine ⟨hd, fun hcirc => ?_⟩
    -- a circle through `id` begins with a dependency that reaches `id` again
    obtain ⟨t, ht, hti⟩ := TransGen.head'_iff.mp hcirc
    exact (h t ht id hti).2 hcirc
  · exact h t ht x htx

/-! ### The check of an id -/

/-- **A strict walk that succeeds has found sound ids only**, and the targets among them. -/
theorem sound_of_walk {current : String} {above finished targets after : List String}
    (h : g.walk true current above finished targets = .ok after)
    (hf : ∀ f ∈ finished, g.Sound f) :
    (∀ f ∈ after, g.Sound f) ∧ finished ⊆ after ∧ targets ⊆ after := by
  generalize hs : true = strict at h
  fun_induction walk g strict current above finished targets generalizing after with
  | case1 => cases h; exact ⟨hf, fun _ h => h, by simp⟩
  | case2 => cases h
  | case3 current above finished t ts hd hw hmem ih =>
      obtain ⟨h₁, h₂, h₃⟩ := ih hf h
      refine ⟨h₁, h₂, List.cons_subset.mpr ⟨h₂ ?_, h₃⟩⟩
      simpa using hmem
  | case4 => cases h
  | case5 current above finished t ts hd hw hmem inner hinner ihIn ih =>
      -- the walk below `t` has found all that `t` needs sound, and so `t` itself
      obtain ⟨h₁, h₂, h₃⟩ := ihIn hf hinner
      have ht : g.Sound t := sound_of_needs hd fun d hdep => h₁ d (h₃ hdep)
      obtain ⟨k₁, k₂, k₃⟩ := ih (fun f hf' => by
        rcases List.mem_append.mp hf' with hf' | hf'
        · exact h₁ f hf'
        · rw [List.mem_singleton.mp hf']; exact ht) h
      have hsub : inner ++ [t] ⊆ after := k₂
      exact ⟨k₁, fun f hf' => hsub (List.mem_append_left _ (h₂ hf')),
        List.cons_subset.mpr ⟨hsub (by simp), k₃⟩⟩
  | case6 => cases h
  | case7 => exact absurd hs.symm ‹_›

/-- **A walk below a sound id succeeds**, if it came by ids that depend on that id. -/
theorem walk_of_sound {strict : Bool} {current : String} {above finished targets : List String}
    (hs : g.Sound current) (ht : ∀ t ∈ targets, g.Needs current t)
    (ha : ∀ a ∈ above, TransGen g.Needs a current) :
    ∃ after, g.walk strict current above finished targets = .ok after := by
  fun_induction walk g strict current above finished targets with
  | case1 current above finished => exact ⟨finished, rfl⟩
  | case2 current above finished t ts hd hw =>
      have hneeds : g.Needs current t := ht t (by simp)
      -- a target on the way to itself would be on a circle
      have hcirc : TransGen g.Needs t t := by
        rcases List.mem_cons.mp hw with rfl | hw
        · exact .single hneeds
        · exact .tail (ha t hw) hneeds
      exact absurd hcirc (hs t (.single hneeds)).2
  | case3 current above finished t ts hd hw hmem ih =>
      exact ih hs (fun u hu => ht u (List.mem_cons_of_mem _ hu)) ha
  | case4 current above finished t ts hd hw hmem e he ih =>
      have hneeds : g.Needs current t := ht t (by simp)
      obtain ⟨after, hok⟩ := ih (hs.of_needs hneeds) (fun _ hu => hu) fun a h => by
        rcases List.mem_cons.mp h with rfl | h
        · exact .single hneeds
        · exact .tail (ha a h) hneeds
      rw [he] at hok; cases hok
  | case5 current above finished t ts hd hw hmem inner hinner ihIn ih =>
      exact ih hs (fun u hu => ht u (List.mem_cons_of_mem _ hu)) ha
  | case6 current above finished t ts hd =>
      exact absurd (hs t (.single (ht t (by simp)))).1 hd
  | case7 current above finished t ts hd hstrict ih =>
      exact ih hs (fun u hu => ht u (List.mem_cons_of_mem _ hu)) ha

/-- **The check of an id succeeds exactly when the id is sound.** -/
theorem checkFrom_eq_ok_iff : g.checkFrom id = .ok () ↔ g.Sound id := by
  constructor
  · intro h
    simp only [checkFrom] at h
    split at h
    · rename_i hd
      cases hw : g.walk true id [] [] (g.dependencies id) with
      | error e => rw [hw] at h; cases h
      | ok after =>
          obtain ⟨h₁, -, h₃⟩ := sound_of_walk hw (by simp)
          exact sound_of_needs hd fun t ht => h₁ t (h₃ ht)
    · cases h
  · intro h
    obtain ⟨after, hw⟩ : ∃ after, g.walk true id [] [] (g.dependencies id) = .ok after :=
      walk_of_sound h (fun _ ht => ht) (by simp)
    rw [checkFrom, if_pos h.isDefined, hw]; rfl

/-! ### Two graphs that agree below an id -/

/-- The graphs agree on everything that `id` reaches in the first. -/
def Agrees (g g' : Graph) (id : String) : Prop :=
  ∀ x, g.Reaches id x →
    g'.dependencies x = g.dependencies x ∧ g'.isDefined x = g.isDefined x ∧
      g'.isKnown x = g.isKnown x

/-- A walk goes the same way in graphs that agree on what it can come to. -/
theorem walk_congr {strict : Bool} {current : String} {above finished targets : List String}
    (h : g.Agrees g' id) (ht : ∀ t ∈ targets, g.Reaches id t) :
    g'.walk strict current above finished targets =
      g.walk strict current above finished targets := by
  fun_induction walk g strict current above finished targets with
  | case1 => rw [walk]
  | case2 current above finished t ts hd hw =>
      have hd' : g'.isDefined t = true := (h t (ht t (by simp))).2.1 ▸ hd
      rw [walk, dif_pos hd', dif_pos hw]
  | case3 current above finished t ts hd hw hmem ih =>
      have hd' : g'.isDefined t = true := (h t (ht t (by simp))).2.1 ▸ hd
      rw [walk, dif_pos hd', dif_neg hw, if_pos hmem]
      exact ih fun u hu => ht u (List.mem_cons_of_mem _ hu)
  | case4 current above finished t ts hd hw hmem e he ih =>
      obtain ⟨hdep, hdef, -⟩ := h t (ht t (by simp))
      have hin := ih fun u hu => ReflTransGen.tail (ht t (by simp)) hu
      rw [walk, dif_pos (hdef ▸ hd), dif_neg hw, if_neg hmem, hdep, hin, he]
  | case5 current above finished t ts hd hw hmem inner hinner ihIn ih =>
      obtain ⟨hdep, hdef, -⟩ := h t (ht t (by simp))
      have hin := ihIn fun u hu => ReflTransGen.tail (ht t (by simp)) hu
      rw [walk, dif_pos (hdef ▸ hd), dif_neg hw, if_neg hmem, hdep, hin, hinner]
      exact ih fun u hu => ht u (List.mem_cons_of_mem _ hu)
  | case6 current above finished t ts hd hstrict =>
      have hd' : ¬ g'.isDefined t = true := (h t (ht t (by simp))).2.1 ▸ hd
      rw [walk, dif_neg hd', if_pos hstrict]
  | case7 current above finished t ts hd hstrict ih =>
      have hd' : ¬ g'.isDefined t = true := (h t (ht t (by simp))).2.1 ▸ hd
      rw [walk, dif_neg hd', if_neg hstrict]
      exact ih fun u hu => ht u (List.mem_cons_of_mem _ hu)

/-- **The check of an id depends only on what the id reaches**, and so does its error. -/
theorem checkFrom_congr (h : g.Agrees g' id) : g'.checkFrom id = g.checkFrom id := by
  obtain ⟨hdep, hdef, hknown⟩ := h id .refl
  simp only [checkFrom, hdep, hdef, hknown]
  rw [walk_congr h fun t ht => ReflTransGen.single ht]

/-! ### Induction along the dependencies -/

/-- Every id on the way is sound and depends on `id`. -/
def LeadsTo (g : Graph) (way : List String) (id : String) : Prop :=
  ∀ a ∈ way, g.Sound a ∧ TransGen g.Needs a id

theorem leadsTo_nil : g.LeadsTo [] id := by simp [LeadsTo]

/-- A way never comes back to where it has been. -/
theorem LeadsTo.not_mem {way : List String} (h : g.LeadsTo way id) : id ∉ way := fun hmem => by
  obtain ⟨hsound, hcirc⟩ := h id hmem
  exact (hsound id .refl).2 hcirc

/-- A way goes on from a sound id to what it needs. -/
theorem LeadsTo.cons {way : List String} (h : g.LeadsTo way a) (hs : g.Sound a)
    (hn : g.Needs a b) : g.LeadsTo (a :: way) b := by
  intro x hx
  rcases List.mem_cons.mp hx with rfl | hx
  · exact ⟨hs, .single hn⟩
  · exact ⟨(h x hx).1, .tail (h x hx).2 hn⟩

/-- What passes from the direct dependencies of every sound id to the id holds of all ids. -/
theorem dependency_induction (g : Graph) {P : String → Prop}
    (step : ∀ id, (g.Sound id → ∀ t, g.Needs id t → P t) → P id) (id : String) : P id := by
  -- a way down only grows while there are vertices off it
  suffices h : ∀ n way id, g.offWay way = n → g.LeadsTo way id → P id from
    h _ [] id rfl leadsTo_nil
  intro n
  induction n using Nat.strongRecOn with
  | _ n ih =>
      intro way id hn hway
      refine step id fun hs t ht => ?_
      exact ih _ (hn ▸ offWay_lt hs.isDefined hway.not_mem) (id :: way) t rfl (hway.cons hs ht)

end MarkupTemplates.Graph
