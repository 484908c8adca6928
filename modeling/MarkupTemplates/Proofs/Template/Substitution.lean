import Mathlib
import MarkupTemplates.Proofs.Template.Expansion

/-!
# Expansion as substitution

An expansion asks for the trees of the outermost includes that name a template, one after the other
in document order (`outerIncludes`), and puts each tree where its include stood (`Substituted`).  It
ends with the first answer that is an error.  `expandAll_substitutes` says so for every function that
answers, also for one whose answers depend on what it was asked before; its state is followed from
call to call (`Asked`).

The names asked for are among those that the dependency graph knows of (`includesIn`): an include
may hide others below it, but nodes that a source can hold have no such includes.
-/

namespace MarkupTemplates

open Markup (Node Attributes)

/-! ### Outermost includes -/

mutual

/-- The names of the templates that the outermost includes of a node name, in document order. -/
def outerIncludesNode : Node → List String
  | .text _ => []
  | .element tag attributes children =>
    if tag = includeTag then (attributes.get? includeKey).toList else outerIncludes children

/-- The names of the templates that the outermost includes of nodes name, in document order. -/
def outerIncludes : List Node → List String
  | [] => []
  | n :: ns => outerIncludesNode n ++ outerIncludes ns

end

theorem outerIncludes_singleton (n : Node) : outerIncludes [n] = outerIncludesNode n := by
  simp [outerIncludes]

/-- The outermost includes of an element that is none itself are those of its children. -/
theorem outerIncludes_element {tag : String} (htag : tag ≠ includeTag) (attributes : Attributes)
    (children : List Node) :
    outerIncludes [.element tag attributes children] = outerIncludes children := by
  rw [outerIncludes_singleton, outerIncludesNode, if_neg htag]

theorem outerIncludes_append (before after : List Node) :
    outerIncludes (before ++ after) = outerIncludes before ++ outerIncludes after := by
  induction before with
  | nil => rw [outerIncludes]; rfl
  | cons n before ih => rw [List.cons_append, outerIncludes, outerIncludes, ih, List.append_assoc]

mutual

theorem outerIncludesNode_sublist : ∀ n : Node,
    (outerIncludesNode n).Sublist (includesInNode n)
  | .text content => by rw [outerIncludesNode]; exact List.nil_sublist _
  | .element tag attributes children => by
      rw [outerIncludesNode, includesInNode]
      split
      · exact List.sublist_append_left _ _
      · exact outerIncludes_sublist children

/-- The outermost includes of nodes are among all their includes, in their order. -/
theorem outerIncludes_sublist : ∀ ns : List Node, (outerIncludes ns).Sublist (includesIn ns)
  | [] => by rw [outerIncludes]; exact List.nil_sublist _
  | n :: ns => by
      rw [outerIncludes, includesIn]
      exact (outerIncludesNode_sublist n).append (outerIncludes_sublist ns)

end

mutual

/-- A node with sound includes hides none below another. -/
theorem SoundInclude.outerIncludesNode_eq : ∀ {n : Node}, SoundInclude n →
    outerIncludesNode n = includesInNode n
  | .text content, _ => by rw [outerIncludesNode, includesInNode]
  | .element tag attributes children, h => by
      rw [outerIncludesNode, includesInNode]
      split
      · rename_i htag
        rw [(h.1 htag).2, includesIn, List.append_nil]
      · exact SoundIncludes.outerIncludes_eq h.2

/-- Sound includes hide no other ones. -/
theorem SoundIncludes.outerIncludes_eq : ∀ {ns : List Node}, SoundIncludes ns →
    outerIncludes ns = includesIn ns
  | [], _ => by rw [outerIncludes, includesIn]
  | _ :: _, h => by
      rw [outerIncludes, includesIn, SoundInclude.outerIncludesNode_eq h.1,
        SoundIncludes.outerIncludes_eq h.2]

end

/-! ### Substitution -/

/-- What an expansion asks for: a name, and the tree that was answered. -/
abbrev Call := String × List Node

/-- The nodes with the trees of the calls, in their order, in the places of the outermost includes
that name a template. -/
inductive Substituted : List Node → List Call → List Node → Prop where
  | nil : Substituted [] [] []
  /-- Texts stay. -/
  | text {content : String} {ns after : List Node} {calls : List Call}
      (h : Substituted ns calls after) :
      Substituted (.text content :: ns) calls (.text content :: after)
  /-- An include that names a template gives way to its tree. -/
  | replaced {attributes : Attributes} {children ns after : List Node} {id : String}
      {calls : List Call} (hid : attributes.get? includeKey = some id) (tree : List Node)
      (h : Substituted ns calls after) :
      Substituted (.element includeTag attributes children :: ns) ((id, tree) :: calls)
        (tree ++ after)
  /-- An include that names none stays, with all that is in it. -/
  | unnamed {attributes : Attributes} {children ns after : List Node} {calls : List Call}
      (hid : attributes.get? includeKey = none) (h : Substituted ns calls after) :
      Substituted (.element includeTag attributes children :: ns) calls
        (.element includeTag attributes children :: after)
  /-- In other elements the children change. -/
  | element {tag : String} {attributes : Attributes} {children inner ns after : List Node}
      {calls later : List Call} (htag : tag ≠ includeTag)
      (hchildren : Substituted children calls inner) (h : Substituted ns later after) :
      Substituted (.element tag attributes children :: ns) (calls ++ later)
        (.element tag attributes inner :: after)

namespace Substituted

variable {ns ms after more : List Node} {calls later : List Call}

/-- The calls are those for the outermost includes. -/
theorem map_fst (h : Substituted ns calls after) : calls.map Prod.fst = outerIncludes ns := by
  induction h with
  | nil => rfl
  | text _ ih => rw [ih, outerIncludes, outerIncludesNode, List.nil_append]
  | replaced hid tree _ ih =>
      rw [List.map_cons, ih, outerIncludes, outerIncludesNode, if_pos rfl, hid]
      rfl
  | unnamed hid _ ih =>
      rw [ih, outerIncludes, outerIncludesNode, if_pos rfl, hid]
      rfl
  | element htag _ _ ihchildren ih =>
      rw [List.map_append, ihchildren, ih, outerIncludes, outerIncludesNode, if_neg htag]

/-- Substituting in two lists is substituting in one. -/
theorem append (h : Substituted ns calls after) (hmore : Substituted ms later more) :
    Substituted (ns ++ ms) (calls ++ later) (after ++ more) := by
  induction h with
  | nil => exact hmore
  | text _ ih => exact ih.text
  | replaced hid tree _ ih =>
      rw [List.append_assoc]
      exact ih.replaced hid tree
  | unnamed hid _ ih => exact ih.unnamed hid
  | element htag hchildren _ _ ih =>
      rw [List.append_assoc]
      exact .element htag hchildren ih

/-- An element that is no include stays, and the substitution goes on among its children. -/
theorem singleton_element {tag : String} (htag : tag ≠ includeTag) (h : Substituted ns calls after)
    (attributes : Attributes) :
    Substituted [.element tag attributes ns] calls [.element tag attributes after] := by
  rw [← List.append_nil calls]
  exact .element htag h .nil

theorem singleton_include {attributes : Attributes} {id : String}
    (hid : attributes.get? includeKey = some id) (tree children : List Node) :
    Substituted [.element includeTag attributes children] [(id, tree)] tree := by
  have h : Substituted [.element includeTag attributes children] [(id, tree)] (tree ++ []) :=
    .replaced hid tree .nil
  rwa [List.append_nil] at h

end Substituted

/-! ### Calls -/

section

variable {σ ε : Type} {resolve : String → ExceptT ε (StateM σ) (List Node)} {s s₀ s₁ s₂ : σ}
  {calls later : List Call} {ns ms : List Node}

/-- The calls, made one after the other, lead from one state to the other, with the trees that they
bear as answers. -/
inductive Asked (resolve : String → ExceptT ε (StateM σ) (List Node)) :
    σ → List Call → σ → Prop where
  | nil {s : σ} : Asked resolve s [] s
  | cons {s s₁ s₂ : σ} {id : String} {tree : List Node} {calls : List Call}
      (h : (resolve id).run.run s = (.ok tree, s₁)) (hrest : Asked resolve s₁ calls s₂) :
      Asked resolve s ((id, tree) :: calls) s₂

/-- Calls that are made after others are calls made one after the other. -/
theorem Asked.append (h : Asked resolve s calls s₁) (hlater : Asked resolve s₁ later s₂) :
    Asked resolve s (calls ++ later) s₂ := by
  induction h with
  | nil => exact hlater
  | cons h _ ih => exact .cons h (ih hlater)

/-- The results and the states with which an expansion of nodes can end. -/
inductive Expands (resolve : String → ExceptT ε (StateM σ) (List Node)) (s : σ) (ns : List Node) :
    Except ε (List Node) × σ → Prop where
  /-- Every call is answered: the trees are put in. -/
  | done {calls : List Call} {after : List Node} {s₁ : σ} (h : Substituted ns calls after)
      (hcalls : Asked resolve s calls s₁) : Expands resolve s ns (.ok after, s₁)
  /-- A call fails: its error is the result, and none of the later calls is made. -/
  | failed {calls : List Call} {id : String} {later : List String} {e : ε} {s₁ s₂ : σ}
      (hids : outerIncludes ns = calls.map Prod.fst ++ id :: later)
      (hcalls : Asked resolve s calls s₁) (h : (resolve id).run.run s₁ = (.error e, s₂)) :
      Expands resolve s ns (.error e, s₂)

namespace Expands

variable {here after : List Node} {e : ε}

/-- Expansions of two lists that succeed make one that does. -/
theorem append (h : Expands resolve s ns (.ok here, s₁))
    (hmore : Expands resolve s₁ ms (.ok after, s₂)) :
    Expands resolve s (ns ++ ms) (.ok (here ++ after), s₂) := by
  cases h with
  | done h hcalls =>
    cases hmore with
    | done hmore hlater => exact .done (h.append hmore) (hcalls.append hlater)

/-- An expansion that fails in the second list has made all calls of the first. -/
theorem append_failed (h : Expands resolve s ns (.ok here, s₁))
    (hmore : Expands resolve s₁ ms (.error e, s₂)) :
    Expands resolve s (ns ++ ms) (.error e, s₂) := by
  cases h with
  | done h hcalls =>
    cases hmore with
    | failed hids hlater hlast =>
        have hall := outerIncludes_append ns ms
        rw [hids, ← h.map_fst, ← List.append_assoc, ← List.map_append] at hall
        exact .failed hall (hcalls.append hlater) hlast

/-- An expansion that fails in the first list does not begin with the second. -/
theorem failed_append (h : Expands resolve s ns (.error e, s₁)) :
    Expands resolve s (ns ++ ms) (.error e, s₁) := by
  cases h with
  | failed hids hcalls hlast =>
      have hall := outerIncludes_append ns ms
      rw [hids, List.append_assoc, List.cons_append] at hall
      exact .failed hall hcalls hlast

/-- An element is expanded by expanding its children. -/
theorem element {tag : String} {attributes : Attributes}
    (htag : tag ≠ includeTag) (h : Expands resolve s ns (.ok after, s₁)) :
    Expands resolve s [.element tag attributes ns] (.ok [.element tag attributes after], s₁) := by
  cases h with
  | done h hcalls =>
      exact .done (.singleton_element htag h attributes) hcalls

theorem element_failed {tag : String} {attributes : Attributes}
    (htag : tag ≠ includeTag) (h : Expands resolve s ns (.error e, s₁)) :
    Expands resolve s [.element tag attributes ns] (.error e, s₁) := by
  cases h with
  | failed hids hcalls hlast =>
      rw [← outerIncludes_element htag attributes] at hids
      exact .failed hids hcalls hlast

/-- What is made of the result of an expansion is the end of another one, which may have begun
before; an error ends both. -/
theorem bind {x : ExceptT ε (StateM σ) (List Node)}
    {f : List Node → ExceptT ε (StateM σ) (List Node)} (hx : Expands resolve s ns (x.run.run s))
    (hok : ∀ after s₁, Expands resolve s ns (.ok after, s₁) →
      Expands resolve s₀ ms ((f after).run.run s₁))
    (herror : ∀ e s₁, Expands resolve s ns (.error e, s₁) →
      Expands resolve s₀ ms (.error e, s₁)) :
    Expands resolve s₀ ms ((x >>= f).run.run s) := by
  rw [ExceptT.run_bind, StateT.run_bind]
  rcases hrun : x.run.run s with ⟨result, s₁⟩
  rw [hrun] at hx
  cases result with
  | ok after => exact hok after s₁ hx
  | error e => exact herror e s₁ hx

end Expands

/-- An include that names a template is the one call for it. -/
theorem expands_include {attributes : Attributes} {children : List Node} {id : String}
    (hid : attributes.get? includeKey = some id) :
    Expands resolve s [.element includeTag attributes children] ((resolve id).run.run s) := by
  rcases hanswer : (resolve id).run.run s with ⟨answer, s₁⟩
  cases answer with
  | ok tree =>
      exact .done (.singleton_include hid tree children) (.cons hanswer .nil)
  | error e =>
      have hids : outerIncludes [.element includeTag attributes children] =
          ([] : List Call).map Prod.fst ++ [id] := by
        rw [outerIncludes_singleton, outerIncludesNode, if_pos rfl, hid]
        rfl
      exact .failed hids .nil hanswer

mutual

/-- Whatever answers it gets, replacing the includes of a node ends in one of the two ways. -/
theorem expands_replaceIncludesNode (resolve : String → ExceptT ε (StateM σ) (List Node)) :
    ∀ (n : Node) (s : σ),
      Expands resolve s [n] ((replaceIncludesNode (fun id _ => resolve id) n).run.run s)
  | .text content, s => .done (.text .nil) .nil
  | .element tag attributes children, s => by
      rw [replaceIncludesNode]
      by_cases htag : tag = includeTag
      · subst htag
        rw [if_pos rfl]
        cases hid : attributes.get? includeKey with
        | none => exact .done (.unnamed hid .nil) .nil
        | some id => exact expands_include hid
      · rw [if_neg htag]
        exact (expands_replaceIncludes resolve children s).bind (fun _ _ h => h.element htag)
          fun _ _ h => h.element_failed htag

/-- Whatever answers it gets, replacing the includes of nodes ends in one of the two ways. -/
theorem expands_replaceIncludes (resolve : String → ExceptT ε (StateM σ) (List Node)) :
    ∀ (ns : List Node) (s : σ),
      Expands resolve s ns ((replaceIncludes (fun id _ => resolve id) ns).run.run s)
  | [], s => .done .nil .nil
  | n :: ns, s => by
      rw [replaceIncludes]
      refine (expands_replaceIncludesNode resolve n s).bind (fun here s₁ hhere => ?_)
        fun _ _ h => h.failed_append
      refine (expands_replaceIncludes resolve ns s₁).bind (fun rest s₂ hrest => ?_)
        fun _ _ h => hhere.append_failed h
      exact hhere.append hrest

end

/-- **An expansion substitutes, and asks for what it substitutes.**  It ends in one of two ways: every
call is answered and the trees stand where the outermost includes stood, or a call fails and its error
is the result, with no call after it.  The calls are those for the outermost includes, once each and
in document order.  Their names are among those that the nodes include at any depth, and all of them
if every include names a template and has no children. -/
theorem expandAll_substitutes (resolve : String → ExceptT ε (StateM σ) (List Node))
    (nodes : List Node) (s : σ) :
    Expands resolve s nodes ((expandAll resolve nodes).run.run s) ∧
      (∀ calls after, Substituted nodes calls after → calls.map Prod.fst = outerIncludes nodes) ∧
      (outerIncludes nodes).Sublist (includesIn nodes) ∧
      (SoundIncludes nodes → outerIncludes nodes = includesIn nodes) := by
  refine ⟨?_, fun _ _ h => h.map_fst, outerIncludes_sublist nodes,
    fun h => h.outerIncludes_eq⟩
  rw [expandAll_eq]
  exact expands_replaceIncludes resolve nodes s

end

/-- One include is answered with nothing, another one with an include; the third answer is an
error. -/
theorem expandAll_substitutes_nested :
    let use (id : String) : Node := .element includeTag ⟨[(includeKey, id)]⟩ []
    let div (children : List Node) : Node := .element "div" ⟨[]⟩ children
    let resolve (id : String) : ExceptT String (StateM (List String)) (List Node) := do
      modify (· ++ [id])
      if id = "none" then return []
      if id = "again" then return [use "none", .text "b"]
      throw id
    let nodes := [.text "a", div [use "none"], use "again"]
    SoundIncludes nodes ∧ outerIncludes nodes = includesIn nodes ∧
      Expands resolve [] nodes
        (.ok [.text "a", div [], use "none", .text "b"], ["none", "again"]) ∧
      Expands resolve [] (use "lost" :: nodes) (.error "lost", ["lost"]) := by
  intro use div resolve nodes
  have hsound : SoundIncludes nodes := by
    simp [nodes, div, use, SoundIncludes, SoundInclude, includeTag, includeKey, Attributes.get?]
  have hnodes := expandAll_substitutes resolve nodes []
  have hmore := expandAll_substitutes resolve (use "lost" :: nodes) []
  refine ⟨hsound, hnodes.2.2.2 hsound, ?_, ?_⟩
  · have hrun : (expandAll resolve nodes).run.run [] =
        (.ok [.text "a", div [], use "none", .text "b"], ["none", "again"]) := by cbv
    exact hrun ▸ hnodes.1
  · have hrun : (expandAll resolve (use "lost" :: nodes)).run.run [] =
        (.error "lost", ["lost"]) := by cbv
    exact hrun ▸ hmore.1

end MarkupTemplates
