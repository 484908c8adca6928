import MarkupTemplates.Markup.Nesting

/-!
# Minified trees

A tree is minified by trimming its texts and dropping those of which nothing is left.  Reading a
text with `minify` gives the minified tree of what reading it without gives, or fails with the same
error (`readTree_minify`).
-/

namespace MarkupTemplates.Markup

open Text (Span)

mutual

/-- The node with its texts trimmed; nothing is left of a blank text. -/
def Node.minified : Node → List Node
  | .element tag attributes children => [.element tag attributes (minified children)]
  | .text content =>
    if Text.trim content = "" then [] else [.text (Text.trim content)]

/-- The nodes with all texts trimmed and without those of which nothing is left. -/
def minified : List Node → List Node
  | [] => []
  | n :: ns => n.minified ++ minified ns

end

mutual

/-- The node with its texts trimmed; nothing is left of a blank text. -/
def Located.minified : Located → List Located
  | .element tag attributes children span =>
    [.element tag attributes (Located.minifiedAll children) span]
  | .text content span =>
    if Text.trim content = "" then [] else [.text (Text.trim content) span]

/-- The nodes with all texts trimmed and without those of which nothing is left. -/
def Located.minifiedAll : List Located → List Located
  | [] => []
  | n :: ns => n.minified ++ Located.minifiedAll ns

end

/-- The element with its children minified. -/
def LocatedElement.minified (e : LocatedElement) : LocatedElement :=
  { e with children := Located.minifiedAll e.children }

/-! ### Lists of nodes -/

@[simp] theorem minified_nil : minified [] = [] := by rw [minified]

@[simp] theorem minified_cons {n : Node} {ns : List Node} :
    minified (n :: ns) = n.minified ++ minified ns := by rw [minified]

theorem minified_singleton {n : Node} : minified [n] = n.minified := by simp

@[simp] theorem minified_append {ms ns : List Node} :
    minified (ms ++ ns) = minified ms ++ minified ns := by
  induction ms with
  | nil => simp
  | cons m ms ih => simp [ih]

@[simp] theorem Node.minified_element {tag : String} {attributes : Attributes}
    {children : List Node} : (Node.element tag attributes children).minified =
      [.element tag attributes (Markup.minified children)] := by rw [Node.minified]

/-- A node of the minified list comes from one node of the list. -/
theorem mem_minified {m : Node} {ns : List Node} : m ∈ minified ns ↔ ∃ n ∈ ns, m ∈ n.minified := by
  induction ns with
  | nil => simp
  | cons n ns ih => simp [ih]

theorem minified_singleton_element {tag : String} {attributes : Attributes}
    {children : List Node} : minified [.element tag attributes children] =
      [.element tag attributes (minified children)] := by
  rw [minified_singleton, Node.minified_element]

theorem Node.minified_text {content : String} : (Node.text content).minified =
    if Text.trim content = "" then [] else [.text (Text.trim content)] := by rw [Node.minified]

theorem Located.minifiedAll_append {ms ns : List Located} :
    minifiedAll (ms ++ ns) = minifiedAll ms ++ minifiedAll ns := by
  induction ms with
  | nil => rw [List.nil_append, minifiedAll, List.nil_append]
  | cons m ms ih => rw [List.cons_append, minifiedAll, minifiedAll, ih, List.append_assoc]

theorem Located.minifiedAll_singleton {n : Located} : minifiedAll [n] = n.minified := by
  rw [minifiedAll, minifiedAll, List.append_nil]

theorem nodesOf_append {ms ns : List Located} :
    nodesOf (ms ++ ns) = nodesOf ms ++ nodesOf ns := by
  simp only [nodesOf_eq_map, List.map_append]

mutual

/-- It makes no difference whether places are forgotten before a node is minified or after. -/
theorem Located.nodesOf_minified : ∀ n : Located, nodesOf n.minified = n.node.minified
  | .element tag attributes children span => by
      rw [Located.minified, Located.node, Node.minified, nodesOf, nodesOf, Located.node,
        nodesOf_minifiedAll children]
  | .text content span => by
      rw [Located.minified, Located.node, Node.minified]
      split
      · rfl
      · rfl

/-- Places do not matter. -/
theorem nodesOf_minifiedAll : ∀ ns : List Located,
    nodesOf (Located.minifiedAll ns) = minified (nodesOf ns)
  | [] => by rw [Located.minifiedAll, nodesOf, minified]
  | n :: ns => by
      rw [Located.minifiedAll, nodesOf, minified, nodesOf_append, Located.nodesOf_minified n,
        nodesOf_minifiedAll ns]

end

/-! ### Reading -/

namespace Nesting

/-- The nesting with what is complete of its tree minified. -/
def minified (n : Nesting) : Nesting :=
  { n with opened := n.opened.map LocatedElement.minified, top := Located.minifiedAll n.top }

variable (n : Nesting)

/-- Nodes that are added one by one come to stand behind the children of the innermost open element,
or at the top. -/
theorem foldl_append (nodes : List Located) : ∀ n : Nesting, nodes.foldl append n =
    match n.opened with
    | [] => { n with top := n.top ++ nodes }
    | e :: outer => { n with opened := { e with children := e.children ++ nodes } :: outer } := by
  induction nodes with
  | nil =>
      rintro ⟨offset, unanswered, opened, top⟩
      cases opened with
      | nil => simp
      | cons e outer => simp
  | cons node nodes ih =>
      rintro ⟨offset, unanswered, opened, top⟩
      rw [List.foldl_cons, ih]
      cases opened with
      | nil => simp [append]
      | cons e outer => simp [append]

/-- A node that is added and then minified leaves what its minified nodes leave when they are added.
-/
theorem minified_append (node : Located) :
    (n.append node).minified = node.minified.foldl append n.minified := by
  have hnode : ∀ ns : List Located, Located.minifiedAll (ns ++ [node]) =
      Located.minifiedAll ns ++ node.minified := fun ns => by
    rw [Located.minifiedAll_append, Located.minifiedAll_singleton]
  rw [foldl_append]
  obtain ⟨offset, unanswered, opened, top⟩ := n
  cases opened with
  | nil => simp [append, minified, hnode]
  | cons e outer => simp [append, minified, LocatedElement.minified, hnode]

/-- An element is added to a minified tree with its children minified. -/
theorem minified_append_element (tag : String) (attributes : Attributes) (children : List Located)
    (span : Span) : (n.append (.element tag attributes children span)).minified =
      n.minified.append (.element tag attributes (Located.minifiedAll children) span) := by
  rw [minified_append, Located.minified]
  rfl

/-- A text is trimmed when it comes or afterwards. -/
theorem minified_appendText (content : List Char) (span : Span) :
    (n.appendText false content span).minified = n.minified.appendText true content span := by
  have htrim : Text.trim (String.ofList content) = String.ofList (Text.trimList content) := by
    rw [Text.trim, String.toList_ofList]
  have hempty : Text.trim (String.ofList content) = "" ↔ (Text.trimList content).isEmpty := by
    rw [htrim, List.isEmpty_iff, ← String.toList_inj, String.toList_ofList]
    rfl
  simp only [appendText, Bool.false_eq_true, if_false, if_true]
  split
  · rename_i hnil
    rw [List.isEmpty_iff.mp hnil]
    rfl
  · rw [minified_append, Located.minified]
    by_cases h : (Text.trimList content).isEmpty
    · rw [if_pos (hempty.mpr h), if_pos h]
      rfl
    · rw [if_neg (mt hempty.mp h), if_neg h, htrim]
      rfl

/-- An element that has just been opened has no children to minify. -/
theorem openElement_minified {content : List Char} {span : Span} {e : LocatedElement}
    (h : openElement content span = .ok e) : e.minified = e ∧ e.children = [] := by
  rw [openElement] at h
  split at h
  · cases h
    exact ⟨rfl, rfl⟩
  · cases h

/-- An opening tag opens the same element in the minified tree, or fails there alike. -/
theorem minified_openTag (content : List Char) (span : Span) :
    n.minified.openTag content span = (n.openTag content span).map minified := by
  rw [openTag, openTag]
  cases he : openElement content span with
  | error e => rfl
  | ok e =>
      obtain ⟨hown, -⟩ := openElement_minified he
      cases hvoid : isVoid e.tag with
      | true =>
          simp only [bind, Except.bind, hvoid, if_true, pure, Except.pure, Except.map,
            minified_append_element, Located.minifiedAll]
          rfl
      | false =>
          simp only [bind, Except.bind, hvoid, if_false, pure, Except.pure, Except.map,
            Bool.false_eq_true]
          rw [minified, minified, List.map_cons, hown]

theorem minified_selfClose (content : List Char) (span : Span) :
    n.minified.selfClose content span = (n.selfClose content span).map minified := by
  rw [selfClose, selfClose]
  cases openElement content span with
  | error e => rfl
  | ok e =>
      simp only [bind, Except.bind, pure, Except.pure, Except.map, minified_append_element,
        Located.minifiedAll]

/-- An element is closed in the minified tree with its minified children, or not, as in the tree. -/
theorem minified_close (name : String) (span : Span) :
    n.minified.close name span = (n.close name span).map minified := by
  obtain ⟨offset, unanswered, opened, top⟩ := n
  cases opened with
  | nil => rfl
  | cons e outer =>
      simp only [close, minified, List.map_cons, LocatedElement.minified]
      split
      · exact congrArg Except.ok
          (minified_append_element ⟨offset, unanswered, outer, top⟩ _ _ _ _).symm
      · rfl

theorem minified_closeTag (content : List Char) (span : Span) :
    n.minified.closeTag content span = (n.closeTag content span).map minified := by
  obtain ⟨offset, unanswered, opened, top⟩ := n
  cases unanswered with
  | zero => rfl
  | succ k =>
      simp only [closeTag, minified]
      split
      · rfl
      · exact minified_close ⟨offset, k, opened, top⟩ _ span

/-- A piece that is taken with minifying adds to the minified tree what it adds to the tree. -/
theorem minified_take (span : Span) (p : Piece) :
    n.minified.take true span p = (n.take false span p).map minified := by
  cases p with
  | text first rest =>
      rw [take, take]
      cases Entity.decode (first :: rest) with
      | ok content => exact congrArg Except.ok (n.minified_appendText content span).symm
      | error fault => rfl
  | characterData content => exact congrArg Except.ok (n.minified_appendText content span).symm
  | opening content => exact n.minified_openTag content span
  | selfClosing content => exact n.minified_selfClose content span
  | closing content => exact n.minified_closeTag content span
  | comment _ => rfl
  | instruction _ => rfl
  | documentType _ _ => rfl

/-- One step of reading with minifying is the step without it, minified. -/
theorem minified_step (p : Piece) :
    n.minified.step true p = (n.step false p).map minified := by
  rw [step, step, show n.minified.offset = n.offset from rfl, minified_take]
  cases n.take false ⟨n.offset, n.offset + Text.byteLength p.source⟩ p with
  | error e => rfl
  | ok n' => rfl

/-- Reading pieces with minifying is reading them without it, minified. -/
theorem minified_foldlM_step (ps : List Piece) : ∀ n : Nesting,
    ps.foldlM (step true) n.minified = (ps.foldlM (step false) n).map minified := by
  induction ps with
  | nil => exact fun n => rfl
  | cons p ps ih =>
      intro n
      rw [List.foldlM_cons, List.foldlM_cons, minified_step]
      cases n.step false p with
      | error e => rfl
      | ok n' => exact ih n'

/-- A text ends in the minified tree where it ends in the tree, with the same elements open. -/
theorem minified_finish : n.minified.finish = n.finish.map Located.minifiedAll := by
  obtain ⟨offset, unanswered, opened, top⟩ := n
  cases opened with
  | nil => rfl
  | cons e outer => rfl

end Nesting

/-- **Minifying while reading is minifying what was read.** -/
theorem readTree_minify (cs : List Char) :
    readTree true cs = (readTree false cs).map Located.minifiedAll := by
  have hsteps := Nesting.minified_foldlM_step (pieces (dropMark cs)).1 Nesting.start
  rw [readTree, readTree]
  dsimp only
  rw [show Nesting.start = Nesting.start.minified from rfl, hsteps,
    show Nesting.start.minified = Nesting.start from rfl]
  cases (pieces (dropMark cs)).1.foldlM (Nesting.step false) Nesting.start with
  | error e => rfl
  | ok n =>
      cases (pieces (dropMark cs)).2 with
      | some fault => rfl
      | none => exact n.minified_finish

end MarkupTemplates.Markup
