import MarkupTemplates.Proofs.Dependency.StoreGraph
import MarkupTemplates.Proofs.Template.Expansion

/-!
# Assembling in two ways

`assemble` leaves open how the ids that a template depends on are compiled, and in which monad.  A
`Simulation` relates computations of two monads and is kept by answers and by sequencing.  Two
assemblies of an id are then related as soon as the compilations of those ids are that the id needs
(`Simulation.assemble`): an assembly asks for no other ids, and does nothing else with its monad.
-/

namespace MarkupTemplates

open Markup (Node)

/-- A relation between the computations of two monads that answers and sequencing keep. -/
structure Simulation (m n : Type → Type) [Monad m] [Monad n] where
  /-- The computations that are related. -/
  rel : {α : Type} → ExceptT ResolutionError m α → ExceptT ResolutionError n α → Prop
  /-- Two computations that answer the same at once are related. -/
  answer : ∀ {α : Type} (r : Except ResolutionError α),
    rel (ExceptT.mk (pure r)) (ExceptT.mk (pure r))
  /-- Related computations with related continuations are related. -/
  bind : ∀ {α β : Type} {x : ExceptT ResolutionError m α} {y : ExceptT ResolutionError n α}
    {f : α → ExceptT ResolutionError m β} {k : α → ExceptT ResolutionError n β},
    rel x y → (∀ a, rel (f a) (k a)) → rel (x >>= f) (y >>= k)

/-- An assembly stops at a failed check. -/
theorem assemble_of_check_error {m : Type → Type} [Monad m] [LawfulMonad m] {s : Store}
    {id : String} {e : ResolutionError} (f : String → ExceptT ResolutionError m Compiled)
    (h : s.graph.checkFrom id = .error e) : assemble s f id = ExceptT.mk (pure (.error e)) := by
  rw [assemble, h]
  exact pure_bind _ _

/-- An assembly uses no more of a store than the check, the definition and the layers of the id. -/
theorem assemble_congr {m : Type → Type} [Monad m] {s s' : Store} {id : String}
    (f : String → ExceptT ResolutionError m Compiled)
    (hcheck : s'.graph.checkFrom id = s.graph.checkFrom id)
    (hdef : s'.definition? id = s.definition? id) (hlayers : s'.layers id = s.layers id) :
    assemble s' f id = assemble s f id := by
  rw [assemble, assemble, hcheck, hdef, hlayers]

namespace Simulation

variable {m n : Type → Type} [Monad m] [Monad n] (S : Simulation m n)

theorem pure_rel {α : Type} (a : α) : S.rel (pure a) (pure a) := S.answer (.ok a)

/-- Two folds are related if each of their steps is. -/
theorem foldlM {α β : Type} {f : β → α → ExceptT ResolutionError m β}
    {k : β → α → ExceptT ResolutionError n β} {as : List α}
    (h : ∀ a ∈ as, ∀ b, S.rel (f b a) (k b a)) (b : β) : S.rel (as.foldlM f b) (as.foldlM k b) := by
  induction as generalizing b with
  | nil => exact S.pure_rel b
  | cons a as ih =>
      rw [List.foldlM_cons, List.foldlM_cons]
      exact S.bind (h a (by simp) b) fun c => ih (fun a' ha' => h a' (by simp [ha'])) c

/-! ### Includes -/

mutual

theorem replaceIncludesNode {f : String → Node → ExceptT ResolutionError m (List Node)}
    {k : String → Node → ExceptT ResolutionError n (List Node)} :
    ∀ node : Node, (∀ id ∈ includesInNode node, ∀ i, S.rel (f id i) (k id i)) →
      S.rel (MarkupTemplates.replaceIncludesNode f node)
        (MarkupTemplates.replaceIncludesNode k node)
  | .text content, _ => by
      simp only [MarkupTemplates.replaceIncludesNode]; exact S.pure_rel _
  | .element tag attributes children, h => by
      simp only [includesInNode, List.mem_append] at h
      simp only [MarkupTemplates.replaceIncludesNode]
      split
      · rename_i htag
        cases hid : attributes.get? includeKey with
        | none => exact S.pure_rel _
        | some id => exact h id (.inl (by simp [htag, hid])) _
      · exact S.bind (replaceIncludes children fun id hid => h id (.inr hid)) fun _ => S.pure_rel _

/-- Replacing the includes of nodes is related if the answers for them are. -/
theorem replaceIncludes {f : String → Node → ExceptT ResolutionError m (List Node)}
    {k : String → Node → ExceptT ResolutionError n (List Node)} :
    ∀ nodes : List Node, (∀ id ∈ includesIn nodes, ∀ i, S.rel (f id i) (k id i)) →
      S.rel (MarkupTemplates.replaceIncludes f nodes) (MarkupTemplates.replaceIncludes k nodes)
  | [], _ => by simp only [MarkupTemplates.replaceIncludes]; exact S.pure_rel _
  | node :: nodes, h => by
      simp only [includesIn, List.mem_append] at h
      simp only [MarkupTemplates.replaceIncludes]
      refine S.bind (replaceIncludesNode node fun id hid => h id (.inl hid)) fun _ => ?_
      exact S.bind (replaceIncludes nodes fun id hid => h id (.inr hid)) fun _ => S.pure_rel _

end

/-! ### Templates -/

variable [LawfulMonad m] [LawfulMonad n] {f : String → ExceptT ResolutionError m Compiled}
  {k : String → ExceptT ResolutionError n Compiled} {id : String}

theorem tree {d : String} (h : S.rel (f d) (k d)) :
    S.rel (Compiled.tree <$> f d) (Compiled.tree <$> k d) := by
  rw [map_eq_pure_bind, map_eq_pure_bind]
  exact S.bind h fun _ => S.pure_rel _

/-- Expanding content is related if the answers for its includes are. -/
theorem expandAll {nodes : List Node} (h : ∀ d ∈ includesIn nodes, S.rel (f d) (k d)) :
    S.rel (MarkupTemplates.expandAll (fun d => Compiled.tree <$> f d) nodes)
      (MarkupTemplates.expandAll (fun d => Compiled.tree <$> k d) nodes) := by
  rw [expandAll_eq, expandAll_eq]
  exact S.replaceIncludes nodes fun d hd _ => S.tree (h d hd)

theorem patchTree {tree : List Node} {directives : List Directive}
    (h : ∀ d ∈ (directives.map (·.payload)).flatMap includesIn, S.rel (f d) (k d)) :
    S.rel (MarkupTemplates.patchTree f id tree directives)
      (MarkupTemplates.patchTree k id tree directives) := by
  refine S.bind ?_ fun _ => S.answer _
  induction directives with
  | nil => exact S.pure_rel _
  | cons d ds ih =>
      simp only [List.map_cons, List.flatMap_cons, List.mem_append] at h
      rw [List.mapM_cons, List.mapM_cons]
      have hpayload := S.expandAll fun t ht => h t (.inl ht)
      refine S.bind (S.bind hpayload fun _ => S.pure_rel _) fun _ => ?_
      exact S.bind (ih fun t ht => h t (.inr ht)) fun _ => S.pure_rel _

/-- Putting a definition together is related if the answers for its dependencies are. -/
theorem assembleBase {t : Template} (h : ∀ d ∈ t.dependencies, S.rel (f d) (k d)) :
    S.rel (MarkupTemplates.assembleBase f id t) (MarkupTemplates.assembleBase k id t) := by
  obtain ⟨tid, body, origin⟩ := t
  cases body with
  | root content =>
      refine S.bind (S.expandAll fun d hd => h d ?_) fun _ => S.pure_rel _
      simpa [Template.dependencies, Template.includes, Template.parts, Template.copied?] using hd
  | copy target directives =>
      refine S.bind (h target (by simp [Template.dependencies, Template.copied?])) fun base => ?_
      refine S.bind (S.patchTree fun d hd => h d ?_) fun _ => S.pure_rel _
      exact Template.mem_dependencies_of_mem_payloads hd
  | layer target priority directives => exact S.pure_rel _

theorem assembleLayer {t : Template} {done : List Node × List Contributor}
    (h : ∀ d ∈ t.dependencies, S.rel (f d) (k d)) :
    S.rel (MarkupTemplates.assembleLayer f id done t)
      (MarkupTemplates.assembleLayer k id done t) := by
  refine S.bind (S.patchTree fun d hd => h d ?_) fun _ => S.pure_rel _
  exact Template.mem_dependencies_of_mem_payloads hd

/-- **Two assemblies are related once the compilations are that the id needs.** -/
theorem assemble {s : Store} (hs : s.Indexed)
    (h : s.graph.Sound id → ∀ d, s.graph.Needs id d → S.rel (f d) (k d)) :
    S.rel (MarkupTemplates.assemble s f id) (MarkupTemplates.assemble s k id) := by
  cases hc : s.graph.checkFrom id with
  | error e =>
      rw [assemble_of_check_error f hc, assemble_of_check_error k hc]
      exact S.answer _
  | ok _ =>
      have hneeds := h (Graph.checkFrom_eq_ok_iff.mp hc)
      refine S.bind (S.answer _) fun _ => ?_
      cases hd : s.definition? id with
      | none => exact S.answer _
      | some t =>
          refine S.bind (S.assembleBase fun d hdep => hneeds d ?_) fun base => ?_
          · exact hs.needs_of_definition? hd hdep
          refine S.bind (S.foldlM (fun layer hl done => ?_) base) fun _ => S.pure_rel _
          exact S.assembleLayer fun d hdep => hneeds d (hs.needs_of_mem_layers hl hdep)

end Simulation

end MarkupTemplates
