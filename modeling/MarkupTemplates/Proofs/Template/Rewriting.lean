import MarkupTemplates.Proofs.Path.Trail
import MarkupTemplates.Template.Edit

/-!
# A directive as one rewriting

A directive edits the elements it addresses one after the other, the last one first.  This comes to
one rewriting of the tree, in which every addressed element is edited at once, after the elements
below it (`Directive.editEach_reverse`), and it cannot fail.  So what a directive does is said
without positions that move (`Directive.apply_eq`), and even without positions, by the trails of the
elements (`Directive.apply_eq_rewriteBy`).
-/

namespace MarkupTemplates.Markup

variable {edit : Node → List Node} {chosen chosen' : Index → Bool} {parent : Index} {i k : Nat}
  {nodes pre post : List Node}

/-! ### Rewriting at chosen indices -/

mutual

/-- What becomes of a node that stands at `index` if the elements at chosen indices are edited. -/
def Node.rewriteAt (edit : Node → List Node) (chosen : Index → Bool) (index : Index) :
    Node → List Node
  | .text content => [.text content]
  | .element tag attributes children =>
    let node := Node.element tag attributes (rewriteFrom edit chosen index 0 children)
    if chosen index then edit node else [node]

/-- What becomes of the nodes that stand below `parent` from position `i` on if the elements at
chosen indices are edited. -/
def rewriteFrom (edit : Node → List Node) (chosen : Index → Bool) (parent : Index) (i : Nat) :
    List Node → List Node
  | [] => []
  | n :: ns =>
    n.rewriteAt edit chosen (parent ++ [i]) ++ rewriteFrom edit chosen parent (i + 1) ns

end

/-- Nodes are rewritten one by one, each at its own index. -/
theorem rewriteFrom_append :
    ∀ {pre : List Node} {i : Nat}, rewriteFrom edit chosen parent i (pre ++ post) =
      rewriteFrom edit chosen parent i pre ++
        rewriteFrom edit chosen parent (i + pre.length) post
  | [], i => by rw [rewriteFrom]; rfl
  | n :: pre, i => by
      rw [List.cons_append, rewriteFrom, rewriteFrom, rewriteFrom_append, List.append_assoc,
        List.length_cons, Nat.add_right_comm, Nat.add_assoc]

mutual

theorem Node.rewriteAt_congr : ∀ {n : Node} {index : Index},
    (∀ rest, chosen (index ++ rest) = chosen' (index ++ rest)) →
      n.rewriteAt edit chosen index = n.rewriteAt edit chosen' index
  | .text content, index, _ => by rw [Node.rewriteAt, Node.rewriteAt]
  | .element tag attributes children, index, h => by
      have hown : chosen index = chosen' index := by simpa using h []
      rw [Node.rewriteAt, Node.rewriteAt, hown, rewriteFrom_congr fun j rest _ _ => h (j :: rest)]

/-- Only whether the indices of the nodes are chosen matters. -/
theorem rewriteFrom_congr : ∀ {ns : List Node} {parent : Index} {i : Nat},
    (∀ j rest, i ≤ j → j < i + ns.length →
      chosen (parent ++ j :: rest) = chosen' (parent ++ j :: rest)) →
      rewriteFrom edit chosen parent i ns = rewriteFrom edit chosen' parent i ns
  | [], parent, i, _ => by rw [rewriteFrom, rewriteFrom]
  | n :: ns, parent, i, h => by
      rw [List.length_cons] at h
      rw [rewriteFrom, rewriteFrom,
        rewriteFrom_congr fun j rest hj hlt => h j rest (by omega) (by omega),
        Node.rewriteAt_congr fun rest => by simpa using h i rest (by omega) (by omega)]

end

mutual

/-- Where nothing is chosen a node stays. -/
theorem Node.rewriteAt_none : ∀ {n : Node} {index : Index},
    n.rewriteAt edit (fun _ => false) index = [n]
  | .text content, index => by rw [Node.rewriteAt]
  | .element tag attributes children, index => by
      rw [Node.rewriteAt, rewriteFrom_none]
      rfl

/-- Nothing changes if nothing is chosen. -/
theorem rewriteFrom_none : ∀ {ns : List Node} {parent : Index} {i : Nat},
    rewriteFrom edit (fun _ => false) parent i ns = ns
  | [], parent, i => by rw [rewriteFrom]
  | n :: ns, parent, i => by
      rw [rewriteFrom, Node.rewriteAt_none, rewriteFrom_none]
      rfl

end

/-- Nothing changes before a node if nothing there is chosen. -/
theorem rewriteFrom_split {n : Node}
    (h : ∀ j rest, j < pre.length → chosen (parent ++ j :: rest) = false) :
    rewriteFrom edit chosen parent 0 (pre ++ n :: post) =
      pre ++ n.rewriteAt edit chosen (parent ++ [pre.length]) ++
        rewriteFrom edit chosen parent (pre.length + 1) post := by
  have hpre : rewriteFrom edit chosen parent 0 pre =
      rewriteFrom edit (fun _ => false) parent 0 pre :=
    rewriteFrom_congr fun j rest _ hj => h j rest (by omega)
  rw [rewriteFrom_append, rewriteFrom, hpre, rewriteFrom_none, Nat.zero_add, List.append_assoc]

/-! ### Rewriting by trails -/

mutual

/-- What becomes of a node in elements with the trail `above` if the elements whose trails satisfy
`p` are edited. -/
def Node.rewriteBy (edit : Node → List Node) (p : Trail → Bool) (above : Trail) :
    Node → List Node
  | .text content => [.text content]
  | .element tag attributes children =>
    let node := Node.element tag attributes (rewriteBy edit p ((tag, attributes) :: above) children)
    if p ((tag, attributes) :: above) then edit node else [node]

/-- What becomes of the nodes in elements with the trail `above` if the elements whose trails
satisfy `p` are edited. -/
def rewriteBy (edit : Node → List Node) (p : Trail → Bool) (above : Trail) :
    List Node → List Node
  | [] => []
  | n :: ns => n.rewriteBy edit p above ++ rewriteBy edit p above ns

end

mutual

theorem Node.rewriteAt_eq_rewriteBy {p : Trail → Bool} :
    ∀ {n : Node} {index : Index} {above : Trail},
      (∀ rest T, trailFrom? above [n] (0 :: rest) = some T → chosen (index ++ rest) = p T) →
        n.rewriteAt edit chosen index = n.rewriteBy edit p above
  | .text content, index, above, _ => by rw [Node.rewriteAt, Node.rewriteBy]
  | .element tag attributes children, index, above, h => by
      have hown : chosen index = p ((tag, attributes) :: above) := by simpa using h [] _ rfl
      rw [Node.rewriteAt, Node.rewriteBy, hown, rewriteFrom_eq_rewriteBy fun j rest T hT => ?_]
      rw [Nat.zero_add]
      exact h (j :: rest) T hT

/-- Rewriting at indices that are chosen by their trails. -/
theorem rewriteFrom_eq_rewriteBy {p : Trail → Bool} :
    ∀ {ns : List Node} {parent : Index} {above : Trail} {i : Nat},
      (∀ j rest T, trailFrom? above ns (j :: rest) = some T →
        chosen (parent ++ (i + j) :: rest) = p T) →
        rewriteFrom edit chosen parent i ns = rewriteBy edit p above ns
  | [], parent, above, i, _ => by rw [rewriteFrom, rewriteBy]
  | n :: ns, parent, above, i, h => by
      rw [rewriteFrom, rewriteBy, Node.rewriteAt_eq_rewriteBy fun rest T hT => ?_,
        rewriteFrom_eq_rewriteBy fun j rest T hT => ?_]
      · rw [Nat.add_assoc, Nat.add_comm 1]
        exact h (j + 1) rest T hT
      · rw [List.append_assoc]
        exact h 0 rest T hT

end

/-! ### One index more -/

/-- Below `parent`, `chosen` has one index more than `later`, which comes before all others. -/
structure AddsFirst (later chosen : Index → Bool) (parent q : Index) : Prop where
  /-- The index comes before the others. -/
  lt : ∀ r, later (parent ++ r) = true → q < r
  /-- The index is chosen besides the others. -/
  eq : ∀ r, chosen (parent ++ r) = (decide (r = q) || later (parent ++ r))

namespace AddsFirst

variable {later : Index → Bool} {j : Nat} {r rest : Index}

theorem later_of_lt (h : AddsFirst later chosen parent (i :: rest)) (hj : j < i) :
    later (parent ++ j :: r) = false := by
  refine Bool.eq_false_iff.mpr fun hr => ?_
  rcases List.cons_lt_cons_iff.mp (h.lt _ hr) with hlt | ⟨rfl, -⟩
  · omega
  · omega

theorem later_self (h : AddsFirst later chosen parent (i :: rest)) :
    later (parent ++ [i]) = false := by
  refine Bool.eq_false_iff.mpr fun hr => ?_
  rcases List.cons_lt_cons_iff.mp (h.lt _ hr) with hlt | ⟨-, hlt⟩
  · omega
  · exact List.not_lt_nil _ hlt

theorem chosen_of_ne (h : AddsFirst later chosen parent (i :: rest)) (hj : j ≠ i) :
    chosen (parent ++ j :: r) = later (parent ++ j :: r) := by
  rw [h.eq]
  simp [hj]

theorem chosen_self (h : AddsFirst later chosen parent [i]) :
    chosen (parent ++ [i]) = true := by
  rw [h.eq]
  simp

theorem chosen_below (h : AddsFirst later chosen parent [i]) :
    chosen (parent ++ [i] ++ j :: r) = later (parent ++ [i] ++ j :: r) := by
  rw [List.append_assoc, List.singleton_append, h.eq]
  simp

theorem chosen_above (h : AddsFirst later chosen parent (i :: j :: rest)) :
    chosen (parent ++ [i]) = false := by
  rw [h.eq, h.later_self]
  simp

theorem below (h : AddsFirst later chosen parent (i :: j :: rest)) :
    AddsFirst later chosen (parent ++ [i]) (j :: rest) where
  lt r hr := by
    rw [List.append_assoc, List.singleton_append] at hr
    rcases List.cons_lt_cons_iff.mp (h.lt _ hr) with hlt | ⟨-, hlt⟩
    · omega
    · exact hlt
  eq r := by
    rw [List.append_assoc, List.singleton_append, h.eq]
    simp

end AddsFirst

/-! ### One list of nodes -/

theorem exists_split_of_getElem? {n : Node} (h : nodes[i]? = some n) :
    ∃ pre post, nodes = pre ++ n :: post ∧ pre.length = i := by
  obtain ⟨hlt, hget⟩ := List.getElem?_eq_some_iff.mp h
  refine ⟨nodes.take i, nodes.drop (i + 1), ?_, by simp; omega⟩
  rw [← hget, List.getElem_cons_drop, List.take_append_drop]

variable {tag : String} {attributes : Attributes} {children : List Node}

theorem modifySiblings_split {f : List Node → Except EditFault (List Node)} {j : Nat}
    {rest : Index} :
    modifySiblings f (pre ++ .element tag attributes children :: post) (pre.length :: j :: rest) =
      (modifySiblings f children (j :: rest)).map fun changed =>
        pre ++ .element tag attributes changed :: post := by
  rw [modifySiblings, List.getElem?_append_right (Nat.le_refl _), Nat.sub_self,
    List.getElem?_cons_zero]
  simp

theorem modifyElement_split {f : String → Attributes → List Node → Node} :
    modifyElement pre.length f (pre ++ .element tag attributes children :: post) =
      .ok (pre ++ f tag attributes children :: post) := by
  rw [modifyElement, List.getElem?_append_right (Nat.le_refl _), Nat.sub_self,
    List.getElem?_cons_zero]
  simp

/-- A splice replaces what stands between two parts of a list. -/
theorem splice_split (pre middle post new : List Node) :
    splice pre.length (pre.length + middle.length) new (pre ++ middle ++ post) =
      .ok (pre ++ new ++ post) := by
  have htake : (pre ++ middle ++ post).take pre.length = pre := by
    rw [List.append_assoc, List.take_left]
  have hdrop : (pre ++ middle ++ post).drop (pre.length + middle.length) = post := by
    rw [← List.length_append, List.drop_left]
  rw [splice, if_pos (by simp), htake, hdrop]

end MarkupTemplates.Markup

namespace MarkupTemplates.Directive

open Markup (Node Attributes Index Trail AddsFirst modifySiblings rewriteFrom rewriteFrom_split
  rewriteFrom_congr rewriteFrom_none rewriteBy rewriteFrom_eq_rewriteBy trails trailFrom?)

variable {d : Directive} {attributes : Attributes}

/-- What an addressed node becomes. -/
def editNode (d : Directive) (attributes : Attributes) (node : Node) : List Node :=
  match d.action with
  | .insertInside =>
    match node with
    | .element tag own children => [.element tag own (children ++ d.payload)]
    | .text content => [.text content]
  | .insertBefore => d.payload ++ [node]
  | .insertAfter => node :: d.payload
  | .replace => d.payload
  | .remove => []
  | .setAttributes =>
    match node with
    | .element tag own children => [.element tag (own.merge attributes) children]
    | .text content => [.text content]

/-! ### One edit after the later ones -/

/-- An element in a list can be edited, and becomes what an addressed node becomes. -/
theorem editList_split {pre post : List Node} {tag : String} {own : Attributes}
    {children : List Node} :
    d.editList attributes pre.length (pre ++ .element tag own children :: post) =
      .ok (pre ++ d.editNode attributes (.element tag own children) ++ post) := by
  rw [editList, editNode]
  cases d.action with
  | insertInside =>
      simp only [Markup.modifyElement_split, List.append_assoc, List.singleton_append]
  | insertBefore =>
      simpa using Markup.splice_split pre [] (.element tag own children :: post) d.payload
  | insertAfter =>
      have h := Markup.splice_split (pre ++ [.element tag own children]) [] post d.payload
      simpa using h
  | replace => simpa using Markup.splice_split pre [.element tag own children] post d.payload
  | remove => simpa using Markup.splice_split pre [.element tag own children] post []
  | setAttributes =>
      simp only [Markup.modifyElement_split, List.append_assoc, List.singleton_append]

/-- **An edit before all edits that were made** is made as if all were made at once. -/
theorem modifySiblings_rewriteFrom {later chosen : Index → Bool} {q : Index} :
    ∀ {parent : Index} {nodes : List Node} {above T : Trail}, q ≠ [] →
      trailFrom? above nodes q = some T → AddsFirst later chosen parent q →
      modifySiblings (d.editList attributes (q.getLastD 0))
          (rewriteFrom (d.editNode attributes) later parent 0 nodes) q =
        .ok (rewriteFrom (d.editNode attributes) chosen parent 0 nodes) := by
  induction q with
  | nil => exact fun hq => absurd rfl hq
  | cons i rest ih =>
      intro parent nodes above T _ hT hadds
      rw [trailFrom?] at hT
      split at hT
      · rename_i tag own children hi
        obtain ⟨pre, post, rfl, rfl⟩ := Markup.exists_split_of_getElem? hi
        -- nothing is chosen before the element, and behind it nothing new
        have hpost : rewriteFrom (d.editNode attributes) chosen parent (pre.length + 1) post =
            rewriteFrom (d.editNode attributes) later parent (pre.length + 1) post :=
          rewriteFrom_congr fun j r hj _ => hadds.chosen_of_ne (by omega)
        rw [rewriteFrom_split fun j r hj => hadds.later_of_lt hj,
          rewriteFrom_split fun j r hj =>
            (hadds.chosen_of_ne (by omega)).trans (hadds.later_of_lt hj),
          hpost, Node.rewriteAt, Node.rewriteAt, hadds.later_self, if_neg Bool.false_ne_true,
          List.append_assoc, List.singleton_append]
        cases rest with
        | nil =>
            rw [hadds.chosen_self, if_pos rfl, rewriteFrom_congr fun j r _ _ => hadds.chosen_below]
            exact editList_split
        | cons j rest =>
            rw [hadds.chosen_above, if_neg Bool.false_ne_true, List.append_assoc,
              List.singleton_append, Markup.modifySiblings_split]
            have hbelow := ih (List.cons_ne_nil _ _) hT hadds.below
            rw [List.getLastD_cons] at hbelow ⊢
            rw [List.getLastD_cons, hbelow]
            rfl
      · cases hT

/-! ### All edits at once -/

/-- Edits that are made after others are made on what those have left. -/
theorem editEach_append {done rest : List Index} {nodes after : List Node}
    (h : d.editEach attributes done nodes = (.ok (), after)) :
    d.editEach attributes (done ++ rest) nodes = d.editEach attributes rest after := by
  induction done generalizing nodes with
  | nil => cases h; rfl
  | cons index done ih =>
      rw [List.cons_append, editEach]
      rw [editEach] at h
      cases hedit : d.editAt attributes nodes index with
      | ok edited => rw [hedit] at h; exact ih h
      | error fault => rw [hedit] at h; cases h

/-- An element that comes before all that were edited can be edited next. -/
theorem editAt_rewriteFrom {nodes : List Node} {found : List Index} {q : Index} {T : Trail}
    (hq : ∀ r ∈ found, q < r) (hne : q ≠ []) (hT : trailFrom? [] nodes q = some T) :
    d.editAt attributes
        (rewriteFrom (d.editNode attributes) (fun r => decide (r ∈ found)) [] 0 nodes) q =
      .ok (rewriteFrom (d.editNode attributes) (fun r => decide (r ∈ q :: found)) [] 0 nodes) :=
  modifySiblings_rewriteFrom hne hT
    ⟨fun r hr => hq r (of_decide_eq_true hr), fun r => by simp⟩

/-- **Edits of elements one after the other, the last one first, are one rewriting.** -/
theorem editEach_reverse {nodes : List Node} {found : List Index}
    (hsorted : found.Pairwise (· < ·))
    (hfound : ∀ q ∈ found, q ≠ [] ∧ ∃ T, trailFrom? [] nodes q = some T) :
    d.editEach attributes found.reverse nodes =
      (.ok (), rewriteFrom (d.editNode attributes) (fun q => decide (q ∈ found)) [] 0 nodes) := by
  induction found with
  | nil =>
      have hnone : (fun q : Index => decide (q ∈ ([] : List Index))) = fun _ => false := by
        funext q
        simp
      rw [hnone, rewriteFrom_none]
      rfl
  | cons q found ih =>
      obtain ⟨hq, hsorted⟩ := List.pairwise_cons.mp hsorted
      obtain ⟨⟨hne, T, hT⟩, hfound⟩ := List.forall_mem_cons.mp hfound
      rw [List.reverse_cons, editEach_append (ih hsorted hfound), editEach,
        editAt_rewriteFrom hq hne hT]
      rfl

/-- What a path addresses is below the top, and has a trail. -/
theorem exists_trail_of_mem_select {path : Path} {nodes : List Node} {q : Index}
    (hq : q ∈ path.select nodes) : q ≠ [] ∧ ∃ T, trailFrom? [] nodes q = some T := by
  obtain ⟨hne, T, hT, -⟩ := Path.mem_select_iff_leads.mp hq
  exact ⟨hne, T, hT⟩

/-- The edits of the elements a path addresses are one rewriting. -/
theorem editEach_select (d : Directive) (attributes : Attributes) (path : Path)
    (nodes : List Node) :
    d.editEach attributes (path.select nodes).reverse nodes =
      (.ok (), rewriteFrom (d.editNode attributes) (fun q => decide (q ∈ path.select nodes)) [] 0
        nodes) :=
  editEach_reverse (path.pairwise_lt_select nodes) fun _ hq => exists_trail_of_mem_select hq

/-- **What a directive does in place.**  It fails if its payload does not fit its action, if it
addresses no element, or if it addresses several and may not, and then it leaves the tree as it is.
Otherwise it edits at once all elements it addresses. -/
theorem applyTo_eq {id : String} {nodes : List Node} :
    d.applyTo id nodes =
      match d.checkPayload with
      | .error fault => (.error (.invalidPayload id d.action fault), nodes)
      | .ok attributes =>
        if d.path.select nodes = [] then (.error (.targetNotFound id d.path.source), nodes)
        else if (d.path.select nodes).length > 1 && !d.multiple then
          (.error (.ambiguousTarget id d.path.source (d.path.select nodes).length), nodes)
        else (.ok (), rewriteFrom (d.editNode attributes)
          (fun q => decide (q ∈ d.path.select nodes)) [] 0 nodes) := by
  rw [applyTo]
  cases d.checkPayload with
  | error fault => rfl
  | ok attributes =>
      have hedits := d.editEach_select attributes d.path nodes
      cases hfound : d.path.select nodes with
      | nil => rfl
      | cons q found =>
          rw [hfound] at hedits
          simp only [hedits, reduceCtorEq, if_false]

/-- **What a directive does.** -/
theorem apply_eq {id : String} {nodes : List Node} :
    d.apply id nodes =
      match d.checkPayload with
      | .error fault => .error (.invalidPayload id d.action fault)
      | .ok attributes =>
        if d.path.select nodes = [] then .error (.targetNotFound id d.path.source)
        else if (d.path.select nodes).length > 1 && !d.multiple then
          .error (.ambiguousTarget id d.path.source (d.path.select nodes).length)
        else .ok (rewriteFrom (d.editNode attributes)
          (fun q => decide (q ∈ d.path.select nodes)) [] 0 nodes) := by
  rw [apply, applyTo_eq]
  cases d.checkPayload with
  | error fault => rfl
  | ok attributes =>
      by_cases hnone : d.path.select nodes = []
      · simp only [if_pos hnone]
      · simp only [if_neg hnone]
        cases decide ((d.path.select nodes).length > 1) && !d.multiple with
        | true => rfl
        | false => rfl

/-- **What a directive does, by trails.**  How many elements it addresses and which ones depends on
their trails alone. -/
theorem apply_eq_rewriteBy {id : String} {nodes : List Node} :
    d.apply id nodes =
      match d.checkPayload with
      | .error fault => .error (.invalidPayload id d.action fault)
      | .ok attributes =>
        let found := ((trails nodes).map (·.2)).countP d.path.leads
        if found = 0 then .error (.targetNotFound id d.path.source)
        else if found > 1 && !d.multiple then .error (.ambiguousTarget id d.path.source found)
        else .ok (rewriteBy (d.editNode attributes) d.path.leads [] nodes) := by
  have hlength : (d.path.select nodes).length = ((trails nodes).map (·.2)).countP d.path.leads := by
    rw [d.path.select_eq, List.length_map, List.countP_map, List.countP_eq_length_filter]
    rfl
  have hrewrite : ∀ attributes, rewriteFrom (d.editNode attributes)
      (fun q => decide (q ∈ d.path.select nodes)) [] 0 nodes =
      rewriteBy (d.editNode attributes) d.path.leads [] nodes := by
    intro attributes
    refine rewriteFrom_eq_rewriteBy fun j rest T hT => ?_
    rw [List.nil_append, Nat.zero_add, Bool.eq_iff_iff, decide_eq_true_iff,
      Path.mem_select_iff_leads]
    constructor
    · rintro ⟨-, T', hT', hleads⟩
      cases hT.symm.trans hT'
      exact hleads
    · exact fun hleads => ⟨by simp, T, hT, hleads⟩
  rw [apply_eq]
  cases d.checkPayload with
  | error fault => rfl
  | ok attributes =>
      simp only [hrewrite, hlength, ← List.length_eq_zero_iff]

end MarkupTemplates.Directive
