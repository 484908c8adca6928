import MarkupTemplates.Proofs.Compile.Agreement
import MarkupTemplates.Proofs.Session.Runs

/-!
# The order of registration

The same templates, registered in another order or cut into other batches, compile to the same
(`answer_compile_ok_iff_of_perm`).  Only the layers of one id and priority must keep their order,
for this is the order in which they apply.
-/

namespace MarkupTemplates

namespace Store

/-- The store after batches were registered one after the other. -/
def registerBatches (s : Store) (batches : List (List Template)) : Except StoreError Store :=
  batches.foldlM (fun s ts => (s.registerAll ts).map Prod.fst) s

theorem templates_registerBatches {s after : Store} {batches : List (List Template)}
    (h : s.registerBatches batches = .ok after) :
    after.templates = s.templates ++ batches.flatten := by
  induction batches generalizing s with
  | nil => cases h; simp
  | cons ts batches ih =>
      rw [registerBatches, List.foldlM_cons] at h
      cases hr : s.registerAll ts with
      | error e => rw [hr] at h; cases h
      | ok r =>
          rw [hr] at h
          rw [ih h, templates_registerAll hr, List.flatten_cons, List.append_assoc]

end Store

namespace Workspace

/-- **Independence of the load order.**  In any two reachable workspaces, let the stores of two
sessions hold the same templates, registered in any order and in any batches, but the layers of one
id and priority in the same order.  Then an id compiles for the one session exactly if it does for
the other, and to the same tree with the same contributors. -/
theorem answer_compile_ok_iff_of_perm {w₁ w₂ : Workspace} (h₁ : w₁.Reachable) (h₂ : w₂.Reachable)
    {i₁ i₂ : Nat} {session₁ session₂ : Session} {batches₁ batches₂ : List (List Template)}
    (hi₁ : w₁.sessions[i₁]? = some session₁) (hi₂ : w₂.sessions[i₂]? = some session₂)
    (hs₁ : Store.empty.registerBatches batches₁ = .ok (w₁.storeOf session₁))
    (hs₂ : Store.empty.registerBatches batches₂ = .ok (w₂.storeOf session₂))
    (hperm : batches₁.flatten.Perm batches₂.flatten)
    (hlayers : ∀ (target : String) (p : Int),
      (batches₁.flatten.filter fun t => t.isLayer && t.id == target && t.priority == p) =
        batches₂.flatten.filter fun t => t.isLayer && t.id == target && t.priority == p)
    (id : String) (c : Compiled) :
    w₁.answer i₁ (.compile id) = .outcome (.ok c) ↔
      w₂.answer i₂ (.compile id) = .outcome (.ok c) := by
  have hw₁ : w₁.Coherent := h₁.coherent
  have hw₂ : w₂.Coherent := h₂.coherent
  have hlog₁ := Store.templates_registerBatches hs₁
  have hlog₂ := Store.templates_registerBatches hs₂
  rw [Store.empty, List.nil_append] at hlog₁ hlog₂
  have hsame : (w₁.storeOf session₁).SameLog (w₂.storeOf session₂) :=
    ⟨by rw [hlog₁, hlog₂]; exact hperm, by rw [hlog₁, hlog₂]; exact hlayers⟩
  rw [hw₁.answer_compile hi₁, hw₂.answer_compile hi₂, Answer.outcome.injEq, Answer.outcome.injEq]
  exact ((hw₁.indexed_storeOf session₁).resolve_eq_ok_iff (hw₂.indexed_storeOf session₂) hsame id
    c).symm

/-- Layers of one priority keep their order, and else the second store got all in another order. -/
theorem answer_compile_ok_iff_of_perm_layers :
    let base : List Template := [⟨"a", .root [.text "x"], .inline⟩, ⟨"a", .layer "a" 2 [], .inline⟩]
    let y : Template := ⟨"a", .layer "a" 1 [], ⟨"y", ⟨0, 0⟩⟩⟩
    let z : Template := ⟨"a", .layer "a" 1 [], ⟨"z", ⟨0, 0⟩⟩⟩
    let w₁ := (start {}).run [(0, .registerAll base), (0, .registerAll [y, z])]
    let w₂ := (start {}).run [(0, .register y), (0, .registerAll (z :: base))]
    ∀ id c, w₁.answer 0 (.compile id) = .outcome (.ok c) ↔
      w₂.answer 0 (.compile id) = .outcome (.ok c) := by
  intro base y z w₁ w₂
  let session : Session := ⟨{}, 0, { store := .empty }⟩
  have hi₁ : w₁.sessions[0]? = some session := by subst base y z; rfl
  have hi₂ : w₂.sessions[0]? = some session := by subst base y z; rfl
  have hs₁ : Store.empty.registerBatches [base, [y, z]] = .ok (w₁.storeOf session) := by
    subst base y z; rfl
  have hs₂ : Store.empty.registerBatches [[y], z :: base] = .ok (w₂.storeOf session) := by
    subst base y z; rfl
  have hperm : [base, [y, z]].flatten.Perm [[y], z :: base].flatten :=
    @List.perm_append_comm _ base [y, z]
  refine answer_compile_ok_iff_of_perm ⟨{}, _, rfl⟩ ⟨{}, _, rfl⟩ hi₁ hi₂ hs₁ hs₂ hperm
    fun target p => ?_
  by_cases hp : p = 1
  · simp [base, y, z, Template.isLayer, Template.mode?, Template.priority, List.filter_cons, hp]
  · simp [base, y, z, Template.isLayer, Template.mode?, Template.priority, List.filter_cons,
      Ne.symm hp]

end Workspace

end MarkupTemplates
