import MarkupTemplates.Proofs.Template.Applying
import MarkupTemplates.Proofs.Template.Expansion
import MarkupTemplates.Proofs.Template.Minified

/-!
# Directives and includes on minified trees

A minified directive does with a minified tree what the directive does with the tree
(`tracks_applyAll`), and includes are replaced in minified nodes by minified trees
(`tracks_expandAll`).  The exception is an attribute setting whose payload, blank text aside, is a
list of attribute elements of which one has blank text in it and none has anything else
(`Directive.HoldsBlank`): it is refused unless it is minified.  Of several directives only the first
one that fails can be the exception.
-/

namespace MarkupTemplates

open Markup (Node Attributes Index Trail minified minified_append rewriteBy trails trailsFrom)

/-! ### Trails -/

namespace Markup

variable {parent : Index} {above : Trail}

/-- The trails of nodes behind others are those of the nodes themselves, counted on. -/
theorem trailsFrom_append {ms ns : List Node} : ∀ {i : Nat},
    trailsFrom parent above i (ms ++ ns) =
      trailsFrom parent above i ms ++ trailsFrom parent above (i + ms.length) ns := by
  induction ms with
  | nil =>
      intro i
      rw [trailsFrom]
      rfl
  | cons m ms ih =>
      intro i
      rw [List.cons_append, trailsFrom, trailsFrom, ih, List.append_assoc, List.length_cons,
        Nat.add_right_comm, Nat.add_assoc]

mutual

theorem Node.trailsFrom_minified : ∀ {n : Node} {parent index : Index} {above : Trail} {i : Nat},
    (trailsFrom parent above i n.minified).map (·.2) = (n.trailsAt index above).map (·.2)
  | .text content, parent, index, above, i => by
      rw [Node.minified_text, Node.trailsAt]
      split
      · rfl
      · rfl
  | .element tag attributes children, parent, index, above, i => by
      rw [Node.minified_element, trailsFrom, trailsFrom, List.append_nil, Node.trailsAt,
        Node.trailsAt, List.map_cons, List.map_cons, trailsFrom_minified]

/-- Nodes have the same trails when minified, wherever they then stand. -/
theorem trailsFrom_minified : ∀ {ns : List Node} {parent parent' : Index} {above : Trail}
    {i i' : Nat}, (trailsFrom parent above i (minified ns)).map (·.2) =
      (trailsFrom parent' above i' ns).map (·.2)
  | [], parent, parent', above, i, i' => by
      rw [minified_nil, trailsFrom, trailsFrom]
  | n :: ns, parent, parent', above, i, i' => by
      rw [minified_cons, trailsFrom_append, List.map_append, Node.trailsFrom_minified,
        trailsFrom_minified, trailsFrom, List.map_append]

end

/-- **Minifying moves elements but keeps their trails.** -/
theorem trails_minified (nodes : List Node) :
    (trails (minified nodes)).map (·.2) = (trails nodes).map (·.2) :=
  trailsFrom_minified

/-! ### Rewriting -/

theorem rewriteBy_append {edit : Node → List Node} {p : Trail → Bool} {ms ns : List Node} :
    rewriteBy edit p above (ms ++ ns) = rewriteBy edit p above ms ++ rewriteBy edit p above ns := by
  induction ms with
  | nil =>
      rw [rewriteBy]
      rfl
  | cons m ms ih => rw [List.cons_append, rewriteBy, rewriteBy, ih, List.append_assoc]

variable {edit edit' : Node → List Node} {p : Trail → Bool}

mutual

/-- Rewriting a minified node comes to minifying what the node is rewritten to. -/
theorem Node.rewriteBy_minified (hedit : ∀ tag attributes children,
    edit' (.element tag attributes (Markup.minified children)) =
      Markup.minified (edit (.element tag attributes children))) :
    ∀ {n : Node} {above : Trail},
      Markup.rewriteBy edit' p above n.minified = Markup.minified (n.rewriteBy edit p above)
  | .text content, above => by
      rw [Node.rewriteBy, minified_singleton, Node.minified_text]
      split
      · rw [Markup.rewriteBy]
      · rw [Markup.rewriteBy, Node.rewriteBy, Markup.rewriteBy]
        rfl
  | .element tag attributes children, above => by
      rw [Node.minified_element, Markup.rewriteBy, Markup.rewriteBy, List.append_nil,
        Node.rewriteBy, Node.rewriteBy, rewriteBy_minified hedit]
      split
      · exact hedit tag attributes _
      · rw [minified_singleton_element]

/-- Rewriting commutes with minifying if the edits of elements do. -/
theorem rewriteBy_minified (hedit : ∀ tag attributes children,
    edit' (.element tag attributes (minified children)) =
      minified (edit (.element tag attributes children))) :
    ∀ {ns : List Node} {above : Trail},
      rewriteBy edit' p above (minified ns) = minified (rewriteBy edit p above ns)
  | [], above => by
      rw [minified_nil, rewriteBy, rewriteBy, minified_nil]
  | n :: ns, above => by
      rw [minified_cons, rewriteBy_append, Node.rewriteBy_minified hedit, rewriteBy_minified hedit,
        rewriteBy, minified_append]

end

/-! ### Blank text -/

/-- What is not blank is not blank when minified, and nothing else is left. -/
theorem filter_not_isBlank_minified (ns : List Node) :
    (minified ns).filter (!·.isBlank) = minified (ns.filter (!·.isBlank)) := by
  induction ns with
  | nil => rfl
  | cons n ns ih =>
      rw [minified_cons, List.filter_append, ih, List.filter_cons]
      cases n with
      | element tag attributes children => simp [Node.isBlank]
      | text content =>
          rw [Node.minified_text]
          cases hblank : Text.isBlankText content with
          | true => simp [Node.isBlank, Text.trim_eq_empty_iff, hblank]
          | false => simp [Node.isBlank, Text.trim_eq_empty_iff, hblank, Node.minified_text]

/-- Nodes that are not blank leave something when minified, if there are any. -/
theorem isEmpty_minified_filter (ns : List Node) :
    (minified (ns.filter (!·.isBlank))).isEmpty = (ns.filter (!·.isBlank)).isEmpty := by
  cases hns : ns.filter (!·.isBlank) with
  | nil => rfl
  | cons n rest =>
      have hn : n ∈ ns.filter (!·.isBlank) := by
        rw [hns]
        exact List.mem_cons_self
      rw [minified_cons]
      cases n with
      | element tag attributes children => rfl
      | text content =>
          have hblank : Text.isBlankText content = false := by
            simpa [Node.isBlank] using (List.mem_filter.mp hn).2
          rw [Node.minified_text, if_neg (by simp [Text.trim_eq_empty_iff, hblank])]
          rfl

end Markup

/-! ### Payloads -/

/-- The node is an attribute element that has children, but none when minified. -/
def Markup.Node.HoldsBlank : Node → Prop
  | .element tag _ children => tag = attributeTag ∧ children ≠ [] ∧ Markup.minified children = []
  | .text _ => False

/-- Blank text is enough for an attribute element to be refused. -/
theorem Markup.Node.HoldsBlank.not_isAttributeElement {n : Node} (h : n.HoldsBlank) :
    ¬ IsAttributeElement n := by
  rintro ⟨attributes, rfl⟩
  exact h.2.1 rfl

theorem Markup.Node.HoldsBlank.isBlank_eq {n : Node} (h : n.HoldsBlank) : n.isBlank = false := by
  cases n with
  | text content => exact h.elim
  | element tag attributes children => rfl

/-- Attribute elements are not changed when they are minified. -/
theorem minified_of_isAttributeElement {content : List Node}
    (h : ∀ n ∈ content, IsAttributeElement n) : minified content = content := by
  induction content with
  | nil => rfl
  | cons n rest ih =>
      obtain ⟨⟨attributes, rfl⟩, hrest⟩ := List.forall_mem_cons.mp h
      rw [Markup.minified_cons, Node.minified_element, Markup.minified_nil, ih hrest]
      rfl

/-- A node that is neither blank nor an attribute element leaves one that is no attribute element,
unless it is refused for blank text only. -/
theorem exists_not_isAttributeElement_minified {n : Node} (hfilled : n.isBlank = false)
    (hattribute : ¬ IsAttributeElement n) (hblank : ¬ n.HoldsBlank) :
    ∃ left ∈ n.minified, ¬ IsAttributeElement left := by
  cases n with
  | text content =>
      have htrim : Text.trim content ≠ "" := by
        rw [Ne, Text.trim_eq_empty_iff]
        exact ne_true_of_eq_false hfilled
      rw [Node.minified_text, if_neg htrim]
      exact ⟨_, List.mem_singleton_self _, nofun⟩
  | element tag attributes children =>
      rw [Node.minified_element]
      refine ⟨_, List.mem_singleton_self _, ?_⟩
      rintro ⟨own, hleft⟩
      obtain ⟨rfl, rfl, hnone⟩ := Node.element.inj hleft
      -- its children are gone, and it had none at first or blank ones
      by_cases hchildren : children = []
      · exact hattribute ⟨attributes, by rw [hchildren]⟩
      · exact hblank ⟨rfl, hchildren, hnone⟩

/-- The directive sets attributes, and what keeps it from doing so is blank text in the attribute
elements of its payload, and nothing else. -/
structure Directive.HoldsBlank (d : Directive) : Prop where
  /-- The directive sets attributes. -/
  action_eq : d.action = .setAttributes
  /-- Besides blank text there are only attribute elements, with nothing or with blank text in
  them. -/
  of_mem : ∀ n ∈ d.payload, n.isBlank = false → IsAttributeElement n ∨ n.HoldsBlank
  /-- One of them has blank text in it. -/
  exists_mem : ∃ n ∈ d.payload, n.HoldsBlank

/-- Minifying makes no difference to a list of attribute elements, unless what is refused of it is
blank text. -/
theorem mergeAttributeElements_minified {content : List Node} {acc : Attributes}
    (hfilled : ∀ n ∈ content, n.isBlank = false)
    (h : (∀ n ∈ content, IsAttributeElement n ∨ n.HoldsBlank) → ∀ n ∈ content, ¬ n.HoldsBlank) :
    mergeAttributeElements acc (minified content) = mergeAttributeElements acc content := by
  by_cases hall : ∀ n ∈ content, IsAttributeElement n ∨ n.HoldsBlank
  · rw [minified_of_isAttributeElement fun n hn => (hall n hn).resolve_right (h hall n hn)]
  · simp only [not_forall, not_or] at hall
    obtain ⟨n, hn, hattribute, hblank⟩ := hall
    obtain ⟨left, hleft, hother⟩ :=
      exists_not_isAttributeElement_minified (hfilled n hn) hattribute hblank
    have hmem : left ∈ minified content := Markup.mem_minified.mpr ⟨n, hn, hleft⟩
    rw [mergeAttributeElements_of_exists ⟨left, hmem, hother⟩,
      mergeAttributeElements_of_exists ⟨n, hn, hattribute⟩]

namespace Directive

variable {d : Directive} {attributes : Attributes}

/-- A directive that holds blank text is refused. -/
theorem HoldsBlank.checkPayload_eq (h : d.HoldsBlank) :
    d.checkPayload = .error .notAttributes := by
  obtain ⟨n, hn, hblank⟩ := h.exists_mem
  rw [checkPayload, h.action_eq]
  dsimp only
  rw [mergeAttributeElements_of_exists
    ⟨n, mem_content.mpr ⟨hn, hblank.isBlank_eq⟩, hblank.not_isAttributeElement⟩]
  rfl

/-- A directive that holds blank text fails on every tree, with one error. -/
theorem HoldsBlank.apply_eq (h : d.HoldsBlank) (id : String) (nodes : List Node) :
    d.apply id nodes = .error (.invalidPayload id .setAttributes .notAttributes) := by
  rw [apply_eq_rewriteBy, h.checkPayload_eq, h.action_eq]

/-- The payload is checked as before it was minified, unless it is refused for blank text. -/
theorem checkPayload_minified (h : ¬ d.HoldsBlank) :
    d.minified.checkPayload = d.checkPayload := by
  have hcontent : d.minified.payload.filter (!·.isBlank) =
      Markup.minified (d.payload.filter (!·.isBlank)) :=
    Markup.filter_not_isBlank_minified d.payload
  rw [checkPayload, checkPayload, hcontent, show d.minified.action = d.action from rfl]
  cases haction : d.action with
  | setAttributes =>
      dsimp only
      rw [mergeAttributeElements_minified fun n hn => (mem_content.mp hn).2]
      intro hall n hn hblank
      refine h ⟨haction, fun n hn hfilled => hall n (mem_content.mpr ⟨hn, hfilled⟩), n, ?_, hblank⟩
      exact (mem_content.mp hn).1
  | _ => simp only [Markup.isEmpty_minified_filter]

/-- A minified directive edits an element with minified children as the directive edits the element,
if both set the same attributes. -/
theorem editNode_minified {tag : String} {own : Attributes} {children : List Node} :
    d.minified.editNode attributes (.element tag own (Markup.minified children)) =
      Markup.minified (d.editNode attributes (.element tag own children)) := by
  unfold editNode
  rw [show d.minified.action = d.action from rfl,
    show d.minified.payload = Markup.minified d.payload from rfl]
  cases d.action <;> simp

/-- **A minified directive does with a minified tree what the directive does with the tree**, unless
it is refused for blank text in its payload. -/
theorem tracks_apply (d : Directive) {id : String} {nodes : List Node} :
    Tracks (fun _ => d.HoldsBlank) Markup.minified (d.apply id nodes)
      (d.minified.apply id (Markup.minified nodes)) := by
  by_cases hblank : d.HoldsBlank
  · rw [hblank.apply_eq]
    exact .excused hblank
  · rw [apply_eq_rewriteBy, apply_eq_rewriteBy, Markup.trails_minified,
      checkPayload_minified hblank]
    cases d.checkPayload with
    | error fault => exact .error _
    | ok attributes =>
        simp only [show d.minified.path = d.path from rfl,
          show d.minified.multiple = d.multiple from rfl]
        split
        · exact .error _
        · split
          · exact .error _
          · exact .of_eq (congrArg Except.ok
              (Markup.rewriteBy_minified fun _ _ _ => editNode_minified))

end Directive

/-- Directives are applied to a minified tree as to the tree, unless the first one that fails is
refused for blank text in its payload. -/
theorem tracks_applyAll {id : String} {nodes : List Node} {directives : List Directive} :
    Tracks (fun e => ∃ before d, StopsAt (Directive.apply id) nodes directives before d e ∧
        d.HoldsBlank) minified (applyAll id nodes directives)
      (applyAll id (minified nodes) (directives.map Directive.minified)) :=
  Tracks.foldlM (fun d _ _ => d.tracks_apply) nodes

/-! ### Includes -/

theorem includesIn_append {ms ns : List Node} :
    includesIn (ms ++ ns) = includesIn ms ++ includesIn ns := by
  induction ms with
  | nil =>
      rw [includesIn]
      rfl
  | cons m ms ih => rw [List.cons_append, includesIn, includesIn, ih, List.append_assoc]

mutual

theorem includesIn_minifiedNode : ∀ n : Node, includesIn n.minified = includesInNode n
  | .text content => by
      rw [Node.minified_text, includesInNode]
      split
      · rw [includesIn]
      · rw [includesIn, includesInNode, includesIn]
        rfl
  | .element tag attributes children => by
      rw [Node.minified_element, includesIn, includesIn, List.append_nil, includesInNode,
        includesInNode, includesIn_minified children]

/-- Minified nodes have the includes of the nodes. -/
theorem includesIn_minified : ∀ ns : List Node, includesIn (minified ns) = includesIn ns
  | [] => by rw [Markup.minified_nil]
  | n :: ns => by
      rw [Markup.minified_cons, includesIn_append, includesIn_minifiedNode n,
        includesIn_minified ns, includesIn]

end

section

variable {m : Type → Type} [Monad m] [LawfulMonad m] {f : String → Node → m (List Node)}

theorem replaceIncludes_append {before after : List Node} :
    replaceIncludes f (before ++ after) = (do
      let here ← replaceIncludes f before
      let rest ← replaceIncludes f after
      return here ++ rest) := by
  induction before with
  | nil => simp [replaceIncludes]
  | cons n before ih =>
      rw [List.cons_append, replaceIncludes, replaceIncludes, ih]
      simp only [bind_assoc, pure_bind, List.append_assoc]

theorem replaceIncludes_singleton {n : Node} :
    replaceIncludes f [n] = replaceIncludesNode f n := by
  simp [replaceIncludes]

end

section

variable {ε : Type} {excuse : ε → Prop} {resolve resolve' : String → ExceptT ε Id (List Node)}

mutual

/-- The includes of a minified node are replaced by minified trees. -/
theorem tracks_replaceIncludesNode : ∀ n : Node,
    (∀ id ∈ includesInNode n, Tracks excuse minified (resolve id) (resolve' id)) →
    Tracks excuse minified
      (replaceIncludesNode (m := ExceptT ε Id) (fun id _ => resolve id) n)
      (replaceIncludes (m := ExceptT ε Id) (fun id _ => resolve' id) n.minified)
  | .text content, _ => by
      rw [Node.minified_text, replaceIncludesNode]
      refine .of_eq ?_
      change _ = Except.ok (minified [Node.text content])
      rw [Markup.minified_singleton, Node.minified_text]
      split
      · rfl
      · rfl
  | .element tag attributes children, h => by
      rw [includesInNode, List.forall_mem_append] at h
      rw [Node.minified_element, replaceIncludes_singleton, replaceIncludesNode,
        replaceIncludesNode]
      split
      · rename_i htag
        cases hid : attributes.get? includeKey with
        | none => exact .of_eq (congrArg Except.ok Markup.minified_singleton_element.symm)
        | some id => exact h.1 id (by simp [htag, hid])
      · rw [bind_exceptT, bind_exceptT]
        refine (tracks_replaceIncludes children h.2).bind fun children _ => .of_eq ?_
        exact congrArg Except.ok Markup.minified_singleton_element.symm

/-- The includes of minified nodes are replaced by minified trees. -/
theorem tracks_replaceIncludes : ∀ ns : List Node,
    (∀ id ∈ includesIn ns, Tracks excuse minified (resolve id) (resolve' id)) →
    Tracks excuse minified
      (replaceIncludes (m := ExceptT ε Id) (fun id _ => resolve id) ns)
      (replaceIncludes (m := ExceptT ε Id) (fun id _ => resolve' id) (minified ns))
  | [], _ => .ok []
  | n :: ns, h => by
      rw [includesIn, List.forall_mem_append] at h
      rw [Markup.minified_cons, replaceIncludes_append, replaceIncludes, bind_exceptT, bind_exceptT]
      refine (tracks_replaceIncludesNode n h.1).bind fun here _ => ?_
      rw [bind_exceptT, bind_exceptT]
      refine (tracks_replaceIncludes ns h.2).bind fun rest _ => .of_eq ?_
      exact congrArg Except.ok minified_append.symm

end

/-- **Includes are replaced in minified nodes by minified trees.** -/
theorem tracks_expandAll {nodes : List Node}
    (h : ∀ id ∈ includesIn nodes, Tracks excuse minified (resolve id) (resolve' id)) :
    Tracks excuse minified (expandAll (m := ExceptT ε Id) resolve nodes)
      (expandAll (m := ExceptT ε Id) resolve' (minified nodes)) := by
  rw [expandAll_eq, expandAll_eq]
  exact tracks_replaceIncludes nodes h

/-- The includes in a minified payload are replaced by minified trees. -/
theorem Directive.tracks_expand {d : Directive}
    (h : ∀ id ∈ includesIn d.payload, Tracks excuse Markup.minified (resolve id) (resolve' id)) :
    Tracks excuse Directive.minified (d.expand (m := ExceptT ε Id) resolve)
      (d.minified.expand (m := ExceptT ε Id) resolve') := by
  rw [expand, expand, bind_exceptT, bind_exceptT]
  exact (tracks_expandAll h).bind fun payload _ => .ok _

end

end MarkupTemplates
