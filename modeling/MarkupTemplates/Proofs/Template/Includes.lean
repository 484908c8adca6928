import MarkupTemplates.Template.Declaration

/-!
# Sound includes

An include is *sound* if it names a template and has no children.  `checkNodes_eq_ok_iff`: the
check of a source lets exactly the nodes through whose includes are sound, at every depth.
-/

namespace MarkupTemplates

open Markup (Node Attributes Located nodesOf)

mutual

/-- Every include in a node names a template and has no children. -/
def SoundInclude : Node → Prop
  | .text _ => True
  | .element tag attributes children =>
    (tag = includeTag → (attributes.get? includeKey).isSome = true ∧ children = []) ∧
      SoundIncludes children

/-- Every include in the nodes names a template and has no children. -/
def SoundIncludes : List Node → Prop
  | [] => True
  | n :: ns => SoundInclude n ∧ SoundIncludes ns

end

namespace Declaration

theorem nodesOf_eq_nil_iff {ns : List Located} : nodesOf ns = [] ↔ ns = [] := by
  cases ns <;> simp [nodesOf]

mutual

/-- A node passes the checks exactly if its includes are sound. -/
theorem checkNode_eq_ok_iff : ∀ n : Located, checkNode n = .ok () ↔ SoundInclude n.node
  | .text _ _ => by simp [checkNode, Located.node, SoundInclude]
  | .element tag attributes children span => by
      have ih := checkNodes_eq_ok_iff children
      rw [checkNode, Located.node, SoundInclude, ← ih, nodesOf_eq_nil_iff]
      by_cases htag : tag = includeTag
      · cases hkey : attributes.get? includeKey with
        | none => simp [htag]
        | some key => cases children <;> simp [htag, checkNodes]
      · simp [htag]

/-- **The check lets through the nodes whose includes are sound.** -/
theorem checkNodes_eq_ok_iff : ∀ ns : List Located,
    checkNodes ns = .ok () ↔ SoundIncludes (nodesOf ns)
  | [] => by simp [checkNodes, nodesOf, SoundIncludes]
  | n :: ns => by
      have ihn := checkNode_eq_ok_iff n
      have ih := checkNodes_eq_ok_iff ns
      rw [checkNodes, nodesOf, SoundIncludes, ← ihn, ← ih]
      cases hn : checkNode n with
      | ok _ => simp
      | error e => simp

end

end Declaration

end MarkupTemplates
