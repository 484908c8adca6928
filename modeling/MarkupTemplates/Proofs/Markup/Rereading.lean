import MarkupTemplates.Proofs.Markup.RoundTrip
import MarkupTemplates.Proofs.Markup.Spill

/-!
# Reading what was written for any tree

Nodes whose tags and keys are names and whose texts are trimmed can always be read again
(`exists_adds_writeAll`), be they in normal form or not.  Texts that stand next to each other are
read as one, and the content of elements that never have any is read behind them, so that writing
what was read gives what is written for the spilled nodes.
-/

namespace MarkupTemplates.Markup

open Text (byteLength)

variable {minify : Bool} {cs rest : List Char} {nodes : List Node} {tag : String}
  {attributes : Attributes}

/-- The tag and the keys of the node are names. -/
def Named : Node → Prop
  | .text _ => True
  | .element tag attributes _ => isName tag = true ∧ ∀ key ∈ attributes.keys, isName key = true

instance : DecidablePred Named
  | .text _ => .isTrue trivial
  | .element tag attributes _ =>
    inferInstanceAs (Decidable (isName tag = true ∧ ∀ key ∈ attributes.keys, isName key = true))

/-- The tag of the node is not `tag`. -/
def Lacks (tag : String) (n : Node) : Prop := n.tag? ≠ some tag

theorem lacks_text (tag content : String) : Lacks tag (.text content) := by
  simp [Lacks, Node.tag?]

theorem everywhere_lacks_element {absent : String} (h : tag ≠ absent)
    (hnodes : Everywhere (Lacks absent) nodes) :
    (Node.element tag attributes nodes).Everywhere (Lacks absent) :=
  Node.everywhere_element.mpr ⟨fun e => h (Option.some.inj e), hnodes⟩

/-! ### Content of elements that never have any -/

/-- The nesting that one closing tag more may answer. -/
def Nesting.await (n : Nesting) : Nesting := { n with unanswered := n.unanswered + 1 }

/-- The opening tag of an element without content adds the element, and its closing tag may come. -/
theorem step_opening_void (h : Proper tag attributes) (hvoid : isVoid tag = true) (n : Nesting) :
    let stop := n.offset + byteLength (Piece.opening (tagContent tag attributes)).source
    n.step minify (.opening (tagContent tag attributes)) =
      .ok (n.await.extend [.element tag attributes [] ⟨n.offset, stop⟩] stop) := by
  intro stop
  let node : Located := .element tag attributes [] ⟨n.offset, stop⟩
  have htake : n.take minify ⟨n.offset, stop⟩ (.opening (tagContent tag attributes)) =
      .ok (n.await.append node) := by
    rw [Nesting.take, Nesting.openTag, Nesting.openElement, h.attributes_eq]
    simp only [name_tagContent h.tag]
    exact if_pos hvoid
  have hstep := Nesting.step_of_take htake
  exact hstep.trans (congrArg Except.ok (Nesting.append_eq_extend n.await node stop))

/-- The closing tag of an element without content answers its opening tag and adds nothing. -/
theorem step_closing_void (h : isName tag = true) (hvoid : isVoid tag = true) (n : Nesting)
    (located : List Located) (k : Nat) :
    (n.await.extend located k).step minify (.closing tag.toList) =
      .ok (n.extend located (k + byteLength (Piece.closing tag.toList).source)) := by
  obtain ⟨offset, unanswered, opened, top⟩ := n
  cases opened with
  | nil => exact step_closing_of_isVoid h hvoid rfl
  | cons e outer => exact step_closing_of_isVoid h hvoid rfl

/-- **What stands in an element that never has content is read behind it.** -/
theorem adds_filled (h : Proper tag attributes) (hvoid : isVoid tag = true)
    (hcs : Adds minify cs nodes ('<' :: '/' :: (tag.toList ++ '>' :: rest))) :
    Adds minify ('<' :: (tagContent tag attributes ++ '>' :: (cs ++ '<' :: '/' ::
      (tag.toList ++ ['>'])))) (.element tag attributes [] :: nodes) rest := by
  intro n
  let start := n.offset + byteLength (Piece.opening (tagContent tag attributes)).source
  let node : Located := .element tag attributes [] ⟨n.offset, start⟩
  obtain ⟨located, hlocated, hread⟩ := hcs (n.await.extend [node] start)
  rw [Nesting.extend_offset, Nesting.extend_extend] at hread
  refine ⟨node :: located, by rw [nodesOf, hlocated, Located.node, nodesOf], ?_⟩
  have htext : '<' :: (tagContent tag attributes ++ '>' :: (cs ++ '<' :: '/' ::
      (tag.toList ++ ['>']))) ++ rest = '<' :: (tagContent tag attributes ++ '>' :: (cs ++ '<' ::
        '/' :: (tag.toList ++ '>' :: rest))) := by simp
  have hstop : n.offset + byteLength ('<' :: (tagContent tag attributes ++ '>' :: (cs ++ '<' ::
      '/' :: (tag.toList ++ ['>'])))) =
        start + byteLength cs + byteLength (Piece.closing tag.toList).source := by
    simp only [start, Piece.source, Text.byteLength_append, Text.byteLength_cons,
      Text.byteLength_nil, List.cons_append]
    omega
  rw [htext, hstop, Nesting.readFrom_of_read (h.read_opening _) (step_opening_void h hvoid n),
    hread]
  exact Nesting.readFrom_of_read (read_closing h.tag rest) (step_closing_void h.tag hvoid n _ _)

/-! ### Elements -/

/-- An element that was read is proper, if it is named. -/
theorem Proper.of_tidy {ns : List Node} (htidy : Tidy minify (.element tag attributes ns))
    (hnamed : Named (.element tag attributes ns)) : Proper tag attributes :=
  ⟨hnamed.1, hnamed.2, htidy⟩

theorem writeAll_singleton (n : Node) : writeAll [n] = n.write := by
  rw [writeAll, writeAll, List.append_nil]

/-- Nodes that were read are not written as nothing. -/
theorem writeAll_spillAll_ne_nil {n : Node} {ns : List Node} (h : n.Everywhere (Tidy minify)) :
    writeAll (spillAll (n :: ns)) ≠ [] := by
  rw [spillAll_cons]
  cases n with
  | text content =>
      have hfull : content.toList ≠ [] := by simpa using (Node.everywhere_text.mp h).1
      simp [spill_text, writeAll, Node.write, mt escapeText_eq_nil_iff.mp hfull]
  | element tag attributes children =>
      cases hv : isVoid tag with
      | true => simp [spill_void hv, writeAll, Node.write]
      | false => simp [spill_element hv, writeAll, Node.write]

/-- What is written for an element with content. -/
theorem write_element_of_ne_nil {ns : List Node} (h : ns ≠ []) :
    (Node.element tag attributes ns).write = '<' :: (tagContent tag attributes ++ '>' ::
      (writeAll ns ++ '<' :: '/' :: (tag.toList ++ ['>']))) := by
  have hfull : ns.isEmpty = false := by simpa using h
  rw [Node.write, hfull, tagContent]
  simp

/-- An element is read again as it is spilled once its children are. -/
theorem exists_adds_write {children read : List Node} (h : Proper tag attributes)
    (htidy : Everywhere (Tidy minify) children)
    (hadds : ∀ rest, Adds minify (writeAll children) read ('<' :: rest))
    (hwritten : writeAll read = writeAll (spillAll children)) :
    ∃ nodes, (∀ rest, Adds minify (Node.element tag attributes children).write nodes rest) ∧
      writeAll nodes = writeAll (Node.element tag attributes children).spill ∧
      ∀ absent, Everywhere (Lacks absent) read → tag ≠ absent →
        Everywhere (Lacks absent) nodes := by
  cases children with
  | nil =>
      have hclosed : (Node.element tag attributes []).write =
          '<' :: (tagContent tag attributes ++ ['/', '>']) := by simp [Node.write, tagContent]
      refine ⟨[.element tag attributes []], fun rest => hclosed ▸ adds_selfClosing h rest, ?_, ?_⟩
      · rw [spill_empty]
      · intro absent _ hne
        exact everywhere_singleton.mpr (everywhere_lacks_element hne everywhere_nil)
  | cons n ns =>
      have hfull : (Node.element tag attributes (n :: ns)).write = _ :=
        write_element_of_ne_nil (List.cons_ne_nil n ns)
      cases hv : isVoid tag with
      | true =>
          refine ⟨.element tag attributes [] :: read, fun rest => ?_, ?_, ?_⟩
          · exact hfull ▸ adds_filled h hv (hadds _)
          · rw [spill_void hv, writeAll, writeAll, hwritten]
          · intro absent hread hne
            exact everywhere_cons.mpr ⟨everywhere_lacks_element hne everywhere_nil, hread⟩
      | false =>
          refine ⟨[.element tag attributes read], fun rest => ?_, ?_, ?_⟩
          · exact hfull ▸ adds_enclosed h hv (hadds _)
          · have hspilled : writeAll (spillAll (n :: ns)) ≠ [] :=
              writeAll_spillAll_ne_nil (everywhere_cons.mp htidy).1
            have hread : read ≠ [] := fun e => hspilled (by rw [← hwritten, e, writeAll])
            have hne : spillAll (n :: ns) ≠ [] := mt spillAll_eq_nil_iff.mp (List.cons_ne_nil n ns)
            rw [spill_element hv, writeAll_singleton, writeAll_singleton,
              write_element_of_ne_nil hread, write_element_of_ne_nil hne, hwritten]
          · intro absent hread hne
            exact everywhere_singleton.mpr (everywhere_lacks_element hne hread)

/-! ### All nodes -/

theorem escapeText_append (cs ds : List Char) :
    escapeText (cs ++ ds) = escapeText cs ++ escapeText ds := List.flatMap_append

/-- Two trimmed texts that stand together are a trimmed text. -/
theorem trim_append {s t : String} (hs : Text.trim s = s) (ht : Text.trim t = t) :
    Text.trim (s ++ t) = s ++ t := by
  rw [Text.trim_eq_self_iff, String.toList_append]
  exact (Text.trim_eq_self_iff.mp hs).append (Text.trim_eq_self_iff.mp ht)

/-- A text that may be empty. -/
theorem exists_adds_text {content : String} (h : minify = true → Text.trim content = content) :
    ∃ nodes, (∀ rest, Adds minify (escapeText content.toList) nodes ('<' :: rest)) ∧
      writeAll nodes = escapeText content.toList ∧
      ∀ absent, Everywhere (Lacks absent) nodes := by
  by_cases hne : content = ""
  · subst hne
    exact ⟨[], fun rest => adds_nil minify _, rfl, fun _ => everywhere_nil⟩
  · refine ⟨[.text content], adds_text hne h, by simp [writeAll, Node.write], fun absent => ?_⟩
    exact everywhere_singleton.mpr (Node.everywhere_text.mpr (lacks_text absent content))

/-- What is written for a list of nodes, after a text that is not finished, is read as nodes for
which the text and the spilled nodes are written. -/
theorem exists_adds_append : ∀ (ns : List Node) (pending : String),
    Everywhere (fun n => Tidy minify n ∧ Named n) ns →
    (minify = true → Text.trim pending = pending) →
    ∃ nodes, (∀ rest, Adds minify (escapeText pending.toList ++ writeAll ns) nodes ('<' :: rest)) ∧
      writeAll nodes = escapeText pending.toList ++ writeAll (spillAll ns) ∧
      ∀ absent, Everywhere (Lacks absent) ns → Everywhere (Lacks absent) nodes
  | [], pending, _, hpending => by
      obtain ⟨nodes, hadds, hwritten, hlacks⟩ := exists_adds_text hpending
      rw [writeAll, spillAll, writeAll, List.append_nil]
      exact ⟨nodes, hadds, hwritten, fun absent _ => hlacks absent⟩
  | .text content :: ns, pending, h, hpending => by
      obtain ⟨htext, hns⟩ := everywhere_cons.mp h
      have htrim := (Node.everywhere_text.mp htext).1.2
      obtain ⟨nodes, hadds, hwritten, hlacks⟩ := exists_adds_append ns (pending ++ content) hns
        fun hm => trim_append (hpending hm) (htrim hm)
      rw [String.toList_append, escapeText_append] at hadds hwritten
      rw [spillAll_cons, spill_text, writeAll, Node.write, List.singleton_append, writeAll,
        Node.write, ← List.append_assoc, ← List.append_assoc]
      exact ⟨nodes, hadds, hwritten, fun absent hab => hlacks absent (everywhere_cons.mp hab).2⟩
  | .element tag attributes children :: ns, pending, h, hpending => by
      obtain ⟨helement, hns⟩ := everywhere_cons.mp h
      obtain ⟨⟨htidy, hnamed⟩, hchildren⟩ := Node.everywhere_element.mp helement
      obtain ⟨before, hbefore, hwrittenBefore, hlacksBefore⟩ := exists_adds_text hpending
      obtain ⟨inner, hinner, hwrittenInner, hlacksInner⟩ :=
        exists_adds_append children "" hchildren fun _ => rfl
      obtain ⟨own, hown, hwrittenOwn, hlacksOwn⟩ := exists_adds_write (.of_tidy htidy hnamed)
        (Everywhere.imp (fun _ hn => hn.1) children hchildren) hinner hwrittenInner
      obtain ⟨after, hafter, hwrittenAfter, hlacksAfter⟩ :=
        exists_adds_append ns "" hns fun _ => rfl
      refine ⟨before ++ (own ++ after), fun rest => ?_, ?_, fun absent hab => ?_⟩
      · rw [writeAll]
        refine Adds.append ?_ (Adds.append (hown _) (hafter rest))
        exact hbefore _
      · rw [spillAll_cons, writeAll_append, writeAll_append, writeAll_append, hwrittenBefore,
          hwrittenOwn, hwrittenAfter]
        rfl
      · obtain ⟨helement, hrest⟩ := everywhere_cons.mp hab
        obtain ⟨hne, hin⟩ := Node.everywhere_element.mp helement
        refine everywhere_append.mpr ⟨hlacksBefore absent, everywhere_append.mpr ⟨?_, ?_⟩⟩
        · exact hlacksOwn absent (hlacksInner absent hin) fun e => hne (congrArg some e)
        · exact hlacksAfter absent hrest

/-- **Whatever was written for tidy nodes can be read again**, and what is written for the nodes
that were read is what is written for the spilled nodes. -/
theorem exists_adds_writeAll {ns : List Node}
    (h : Everywhere (fun n => Tidy minify n ∧ Named n) ns) :
    ∃ nodes, (∀ rest, Adds minify (writeAll ns) nodes ('<' :: rest)) ∧
      writeAll nodes = writeAll (spillAll ns) ∧
      ∀ absent, Everywhere (Lacks absent) ns → Everywhere (Lacks absent) nodes :=
  exists_adds_append ns "" h fun _ => rfl

end MarkupTemplates.Markup
