import MarkupTemplates.Proofs.Markup.Reading
import MarkupTemplates.Proofs.Markup.Written

/-!
# Reading is inverse to writing

`Adds cs nodes rest` says that a text `cs` with `rest` after it is read as the nodes `nodes`,
whatever has been read before.  Texts of this kind can be put one after the other (`Adds.append`)
and into an element (`adds_enclosed`), so that nodes in normal form are read as they were written
(`adds_writeAll`).
-/

namespace MarkupTemplates.Markup

open Text (Span byteLength)

/-- The text is read as the nodes, which are added to whatever has been read before. -/
def Adds (minify : Bool) (cs : List Char) (nodes : List Node) (rest : List Char) : Prop :=
  ∀ n : Nesting, ∃ located, nodesOf located = nodes ∧
    n.readFrom minify (cs ++ rest) =
      (n.extend located (n.offset + byteLength cs)).readFrom minify rest

variable {minify : Bool} {cs ds rest : List Char} {nodes more : List Node} {tag : String}
  {attributes : Attributes}

theorem adds_nil (minify : Bool) (rest : List Char) : Adds minify [] [] rest := fun n =>
  ⟨[], rfl, by rw [List.nil_append, byteLength, Nat.add_zero, n.extend_nil]⟩

/-- Texts that add nodes add them one after the other. -/
theorem Adds.append (h : Adds minify cs nodes (ds ++ rest)) (h' : Adds minify ds more rest) :
    Adds minify (cs ++ ds) (nodes ++ more) rest := by
  intro n
  obtain ⟨located, hlocated, hread⟩ := h n
  obtain ⟨located', hlocated', hread'⟩ := h' (n.extend located (n.offset + byteLength cs))
  refine ⟨located ++ located', ?_, ?_⟩
  · rw [nodesOf_eq_map, List.map_append, ← nodesOf_eq_map, ← nodesOf_eq_map, hlocated, hlocated']
  · rw [List.append_assoc, hread, hread', n.extend_extend, n.extend_offset, Text.byteLength_append,
      Nat.add_assoc]

/-- A piece that completes one node is read as this node. -/
theorem adds_of_piece {c : Char} {p : Piece} {node : Node}
    (hread : Piece.read c (cs ++ rest) = .ok (p, rest))
    (htake : ∀ (n : Nesting) (span : Span), ∃ located, located.node = node ∧
      n.take minify span p = .ok (n.append located)) :
    Adds minify (c :: cs) [node] rest := by
  intro n
  have hsource : p.source = c :: cs :=
    List.append_cancel_right (Piece.source_append_of_read hread)
  obtain ⟨located, hlocated, hn⟩ := htake n ⟨n.offset, n.offset + byteLength p.source⟩
  refine ⟨[located], by rw [nodesOf, nodesOf, hlocated], ?_⟩
  rw [List.cons_append, Nesting.readFrom_of_read hread (Nesting.step_of_take hn), hsource,
    Nesting.append_eq_extend]

/-! ### Texts -/

/-- A text that minifying would not change is added as it is. -/
theorem appendText_of_trimmed {content : String} (hne : content ≠ "")
    (htrim : minify = true → Text.trim content = content) (n : Nesting) (span : Span) :
    n.appendText minify content.toList span = n.append (.text content span) := by
  have hkept : (if minify then Text.trimList content.toList else content.toList) =
      content.toList := by
    split
    · rename_i hm
      have := congrArg String.toList (htrim hm)
      rwa [Text.trim, String.toList_ofList] at this
    · rfl
  have hfull : content.toList.isEmpty = false := by simpa using hne
  rw [Nesting.appendText, hkept]
  simp only [hfull, Bool.false_eq_true, if_false, String.ofList_toList]

/-- A written text adds the text, where a bracket follows. -/
theorem adds_text {content : String} (hne : content ≠ "")
    (htrim : minify = true → Text.trim content = content) (rest : List Char) :
    Adds minify (escapeText content.toList) [.text content] ('<' :: rest) := by
  have hlt := lt_not_mem_escapeText content.toList
  have hdecode := decode_escapeText content.toList
  cases hw : escapeText content.toList with
  | nil => exact absurd (by simpa using escapeText_eq_nil_iff.mp hw) hne
  | cons c cs =>
      rw [hw] at hlt hdecode
      refine adds_of_piece (read_text hlt rest) fun n span => ⟨.text content span, rfl, ?_⟩
      rw [Nesting.take, hdecode]
      simp only [appendText_of_trimmed hne htrim]

/-! ### Elements -/

/-- An element that is written without a closing tag. -/
theorem adds_selfClosing (h : Proper tag attributes) (rest : List Char) :
    Adds minify ('<' :: (tagContent tag attributes ++ ['/', '>'])) [.element tag attributes []]
      rest := by
  refine adds_of_piece (p := .selfClosing (tagContent tag attributes)) ?_ fun n span => ?_
  · have htext : tagContent tag attributes ++ ['/', '>'] ++ rest =
        tagContent tag attributes ++ '/' :: '>' :: rest := by simp
    rw [htext, h.read_selfClosing]
  · refine ⟨.element tag attributes [] span, rfl, ?_⟩
    rw [Nesting.take, Nesting.selfClose, Nesting.openElement, h.attributes_eq]
    simp only [name_tagContent h.tag]
    rfl

theorem closingName_toList (h : isName tag = true) : Nesting.closingName tag.toList = tag := by
  have hback : tag.toList.reverse.dropWhile Char.isWhitespace = tag.toList.reverse := by
    cases hr : tag.toList.reverse with
    | nil => rfl
    | cons c cs =>
        have hc : c ∈ tag.toList := List.mem_reverse.mp (hr ▸ List.mem_cons_self)
        rw [List.dropWhile_cons_of_neg]
        simp [isWhitespace_of_isNameChar (isNameChar_of_mem h hc)]
  rw [Nesting.closingName, hback, List.reverse_reverse]
  simp only [ite_self, String.ofList_toList]

/-- A written opening tag opens its element. -/
theorem step_opening (h : Proper tag attributes) (hvoid : isVoid tag = false) (n : Nesting) :
    n.step minify (.opening (tagContent tag attributes)) =
      .ok (n.enter tag attributes
        (n.offset + byteLength (Piece.opening (tagContent tag attributes)).source)) := by
  let start := n.offset + byteLength (Piece.opening (tagContent tag attributes)).source
  have htake : n.take minify ⟨n.offset, start⟩ (.opening (tagContent tag attributes)) =
      .ok { n.enter tag attributes start with offset := n.offset } := by
    rw [Nesting.take, Nesting.openTag, Nesting.openElement, h.attributes_eq]
    simp only [name_tagContent h.tag]
    exact if_neg (by simp [hvoid])
  exact Nesting.step_of_take htake

/-- A closing tag completes the element it closes with the children it got since. -/
theorem step_closing (h : isName tag = true) (hvoid : isVoid tag = false) (n : Nesting)
    (start k : Nat) (located : List Located) :
    let stop := k + byteLength (Piece.closing tag.toList).source
    ((n.enter tag attributes start).extend located k).step minify (.closing tag.toList) =
      .ok (n.extend [.element tag attributes located ⟨n.offset, stop⟩] stop) := by
  intro stop
  let node : Located := .element tag attributes located ⟨n.offset, stop⟩
  have htake : ((n.enter tag attributes start).extend located k).take minify ⟨k, stop⟩
      (.closing tag.toList) = .ok (Nesting.append { n with offset := k } node) := by
    rw [Nesting.take, Nesting.closeTag, closingName_toList h]
    simp only [Nesting.enter, Nesting.extend, hvoid, Nesting.close, List.nil_append, if_true]
    rfl
  have hstep := Nesting.step_of_take htake
  exact hstep.trans (congrArg Except.ok (Nesting.append_eq_extend _ node stop))

/-- The closing tag of an element without content does nothing but answer an opening tag. -/
theorem step_closing_of_isVoid (h : isName tag = true) (hvoid : isVoid tag = true) {n : Nesting}
    {k : Nat} (hn : n.unanswered = k + 1) :
    n.step minify (.closing tag.toList) =
      .ok { n with
        offset := n.offset + byteLength (Piece.closing tag.toList).source, unanswered := k } := by
  have htake : ∀ span, n.take minify span (.closing tag.toList) =
      .ok { n with unanswered := k } := by
    intro span
    rw [Nesting.take, Nesting.closeTag, closingName_toList h]
    simp only [hn, hvoid, if_true]
  exact Nesting.step_of_take (htake _)

/-- An element that is written with a closing tag, whatever stands between the tags. -/
theorem adds_enclosed (h : Proper tag attributes) (hvoid : isVoid tag = false)
    (hcs : Adds minify cs nodes ('<' :: '/' :: (tag.toList ++ '>' :: rest))) :
    Adds minify ('<' :: (tagContent tag attributes ++ '>' :: (cs ++ '<' :: '/' ::
      (tag.toList ++ ['>'])))) [.element tag attributes nodes] rest := by
  intro n
  let start := n.offset + byteLength (Piece.opening (tagContent tag attributes)).source
  let stop := start + byteLength cs + byteLength (Piece.closing tag.toList).source
  -- the children are read within the element, which its closing tag then completes
  obtain ⟨located, hlocated, hread⟩ := hcs (n.enter tag attributes start)
  refine ⟨[.element tag attributes located ⟨n.offset, stop⟩], by
    rw [nodesOf, nodesOf, Located.node, hlocated], ?_⟩
  have htext : '<' :: (tagContent tag attributes ++ '>' :: (cs ++ '<' :: '/' ::
      (tag.toList ++ ['>']))) ++ rest = '<' :: (tagContent tag attributes ++ '>' :: (cs ++ '<' ::
        '/' :: (tag.toList ++ '>' :: rest))) := by simp
  have hstop : n.offset + byteLength ('<' :: (tagContent tag attributes ++ '>' :: (cs ++ '<' ::
      '/' :: (tag.toList ++ ['>'])))) = stop := by
    simp only [stop, start, Piece.source, Text.byteLength_append, Text.byteLength_cons,
      Text.byteLength_nil, List.cons_append]
    omega
  rw [htext, hstop, Nesting.readFrom_of_read (h.read_opening _) (step_opening h hvoid n), hread]
  exact Nesting.readFrom_of_read (read_closing h.tag rest) (step_closing h.tag hvoid n start _ _)

/-- A node as it is written. -/
theorem adds_write_element (h : Proper tag attributes)
    (hvoid : isVoid tag = true → nodes = [])
    (hnodes : ∀ rest, Adds minify (writeAll nodes) nodes ('<' :: rest)) (rest : List Char) :
    Adds minify (Node.write (.element tag attributes nodes)) [.element tag attributes nodes]
      rest := by
  rw [Node.write]
  cases nodes with
  | nil =>
      have htext : '<' :: tag.toList ++ attributes.write ++ "/>".toList =
          '<' :: (tagContent tag attributes ++ ['/', '>']) := by simp [tagContent]
      exact htext ▸ adds_selfClosing h rest
  | cons child children =>
      have hopen : isVoid tag = false := by
        cases hv : isVoid tag with
        | false => rfl
        | true => cases hvoid hv
      have htext : '<' :: tag.toList ++ attributes.write ++
          ('>' :: writeAll (child :: children) ++ "</".toList ++ tag.toList ++ ['>']) =
          '<' :: (tagContent tag attributes ++ '>' :: (writeAll (child :: children) ++ '<' :: '/' ::
            (tag.toList ++ ['>']))) := by simp [tagContent]
      exact htext ▸ adds_enclosed h hopen (hnodes _)

/-! ### All nodes -/

/-- What is written for nodes begins with a tag, unless they begin with a text. -/
theorem exists_writeAll_append (h : ∀ content, nodes.head? ≠ some (.text content))
    (rest : List Char) : ∃ after, writeAll nodes ++ '<' :: rest = '<' :: after := by
  cases nodes with
  | nil => exact ⟨rest, rfl⟩
  | cons node nodes =>
      cases node with
      | text content => exact absurd rfl (h content)
      | element tag attributes children => exact ⟨_, rfl⟩

/-- **Nodes in normal form are read as they were written.** -/
theorem adds_writeAll (h : Normal minify nodes) :
    ∀ rest, Adds minify (writeAll nodes) nodes ('<' :: rest) := by
  induction h with
  | nil => exact fun rest => adds_nil minify _
  | text hne htrim hhead _ ih =>
      intro rest
      -- a text is read up to the next tag, so nothing else may follow it
      obtain ⟨after, hafter⟩ := exists_writeAll_append hhead rest
      rw [writeAll, Node.write]
      exact Adds.append (hafter ▸ adds_text hne htrim after) (ih rest)
  | element hp hvoid _ _ ihchildren ih =>
      intro rest
      rw [writeAll]
      exact Adds.append (adds_write_element hp hvoid ihchildren _) (ih rest)

/-- A whole text that begins with a tag. -/
theorem readTree_of_adds (h : Adds minify ('<' :: cs) nodes []) :
    ∃ located, nodesOf located = nodes ∧ readTree minify ('<' :: cs) = .ok located := by
  obtain ⟨located, hlocated, hread⟩ := h .start
  refine ⟨located, hlocated, ?_⟩
  have hmark : dropMark ('<' :: cs) = '<' :: cs ++ [] := by
    rw [List.append_nil, dropMark, if_neg (by decide)]
  rw [Nesting.readTree_eq_readFrom, hmark, hread, Nesting.readFrom_nil, Nesting.finish_extend rfl]
  rfl

end MarkupTemplates.Markup
