import MarkupTemplates.Markup.Nesting
import MarkupTemplates.Proofs.Markup.Everywhere
import MarkupTemplates.Proofs.Text.Trimmed
import MarkupTemplates.Proofs.Yields

/-!
# What a text is read as

Reading sees to the form of a tree (`yields_readTree`): whatever the text, no key comes twice in an
element, elements that never have content have none (`Hollow`), and texts are neither empty nor, if
they are to be trimmed, blank at an end.  Each piece of the text keeps what is open and what is
complete in this form (`Nesting.Tidy`).
-/

namespace MarkupTemplates.Markup

open Text (Span)

variable {minify : Bool}

/-- The node has no children if it is an element that never has content. -/
def Hollow : Node → Prop
  | .text _ => True
  | .element tag _ children => isVoid tag = true → children = []

instance : DecidablePred Hollow
  | .text _ => .isTrue trivial
  | .element tag _ children =>
    inferInstanceAs (Decidable (isVoid tag = true → children = []))

/-- The keys of the node are distinct, and a text is not empty and trimmed if texts are. -/
def Tidy (minify : Bool) : Node → Prop
  | .text content => content ≠ "" ∧ (minify = true → Text.trim content = content)
  | .element _ attributes _ => attributes.keys.Nodup

/-- What holds of the nodes that a text is read as. -/
def Read (minify : Bool) (n : Node) : Prop := Tidy minify n ∧ Hollow n

/-! ### Tags -/

/-- The attributes that a tag is read with have distinct keys: one that is there already is an
error. -/
theorem Tag.yields_readAttributes {size : Nat} {attributes : Attributes} {cs : List Char}
    (h : attributes.keys.Nodup) :
    Yields (Tag.readAttributes size attributes cs) fun a => a.keys.Nodup := by
  fun_induction Tag.readAttributes size attributes cs with
  | case1 => exact .ok h
  | case2 => exact .error _
  | case3 => exact .error _
  | case4 attributes cs c rest hs raw rest' hb bound hbound ih =>
      refine ih ?_
      simp only [Tag.bind] at hbound
      split at hbound
      · cases hbound
      · split at hbound
        · cases hbound; exact Attributes.keys_nodup_insert h _ _
        · cases hbound

namespace Nesting

/-- An element that has just been opened has distinct attributes and no children. -/
theorem yields_openElement (content : List Char) (span : Span) :
    Yields (openElement content span) fun e => e.attributes.keys.Nodup ∧ e.children = [] := by
  intro e he
  rw [openElement] at he
  split at he
  · rename_i attributes hattributes
    cases he
    have hempty : (∅ : Attributes).keys.Nodup := List.nodup_nil
    exact ⟨Tag.yields_readAttributes hempty attributes hattributes, rfl⟩
  · cases he

/-! ### One piece -/

/-- The complete nodes are as they should be, and the open elements may have content. -/
structure Tidy (minify : Bool) (n : Nesting) : Prop where
  /-- The nodes outside all open elements. -/
  top : Everywhere (Read minify) (nodesOf n.top)
  /-- The open elements and the nodes in them. -/
  opened : ∀ e ∈ n.opened, isVoid e.tag = false ∧ e.attributes.keys.Nodup ∧
    Everywhere (Read minify) (nodesOf e.children)

theorem tidy_start : Tidy minify start := ⟨everywhere_nil, nofun⟩

/-- What holds everywhere in nodes and in one node more holds everywhere in all of them. -/
theorem everywhere_nodesOf_append {P : Node → Prop} {ns : List Located} {node : Located}
    (h : Everywhere P (nodesOf ns)) (hnode : node.node.Everywhere P) :
    Everywhere P (nodesOf (ns ++ [node])) := by
  rw [nodesOf_eq_map, List.map_append, ← nodesOf_eq_map, everywhere_append]
  exact ⟨h, everywhere_singleton.mpr hnode⟩

namespace Tidy

variable {n : Nesting} (h : n.Tidy minify)

include h

/-- Everything stays tidy when a node is added that is as the nodes of a text are. -/
theorem append {node : Located} (hnode : node.node.Everywhere (Read minify)) :
    (n.append node).Tidy minify := by
  obtain ⟨offset, unanswered, opened, top⟩ := n
  cases opened with
  | nil => exact ⟨everywhere_nodesOf_append h.top hnode, nofun⟩
  | cons e outer =>
      obtain ⟨⟨hvoid, hkeys, hchildren⟩, houter⟩ := List.forall_mem_cons.mp h.opened
      refine ⟨h.top, List.forall_mem_cons.mpr ⟨⟨hvoid, hkeys, ?_⟩, houter⟩⟩
      exact everywhere_nodesOf_append hchildren hnode

/-- A text keeps everything tidy: with minifying it is trimmed, and dropped if it is blank. -/
theorem appendText (content : List Char) (span : Span) :
    (n.appendText minify content span).Tidy minify := by
  unfold Nesting.appendText
  extract_lets kept
  split
  · exact h
  · rename_i hne
    refine h.append (Node.everywhere_text.mpr ⟨⟨by simpa using hne, fun hm => ?_⟩, trivial⟩)
    rw [Text.trim_eq_self_iff, String.toList_ofList]
    simp only [kept, hm, if_true]
    exact Text.trimmed_trimList content

/-- An element without children. -/
theorem append_element {tag : String} {attributes : Attributes} (span : Span)
    (hkeys : attributes.keys.Nodup) :
    (n.append (.element tag attributes [] span)).Tidy minify :=
  h.append (Node.everywhere_element.mpr ⟨⟨hkeys, fun _ => rfl⟩, everywhere_nil⟩)

theorem openTag (content : List Char) (span : Span) :
    Yields (n.openTag content span) (Nesting.Tidy minify) := by
  refine (yields_openElement content span).bind fun e ⟨hkeys, hchildren⟩ => ?_
  have hn : Nesting.Tidy minify { n with unanswered := n.unanswered + 1 } := ⟨h.top, h.opened⟩
  extract_lets
  split
  · exact .ok (hn.append_element span hkeys)
  · rename_i hvoid
    refine .ok ⟨h.top, List.forall_mem_cons.mpr ⟨⟨by simpa using hvoid, hkeys, ?_⟩, h.opened⟩⟩
    rw [hchildren]; exact everywhere_nil

theorem selfClose (content : List Char) (span : Span) :
    Yields (n.selfClose content span) (Nesting.Tidy minify) :=
  (yields_openElement content span).bind fun _ he => .ok (h.append_element span he.1)

/-- The element that is closed is as nodes are read, for its children are. -/
theorem close (name : String) (span : Span) :
    Yields (n.close name span) (Nesting.Tidy minify) := by
  intro n' hn'
  rw [Nesting.close] at hn'
  split at hn'
  · cases hn'
  · rename_i e outer hopened
    split at hn'
    · cases hn'
      obtain ⟨⟨hvoid, hkeys, hchildren⟩, houter⟩ := List.forall_mem_cons.mp (hopened ▸ h.opened)
      have hn : Nesting.Tidy minify { n with opened := outer } := ⟨h.top, houter⟩
      refine hn.append (Node.everywhere_element.mpr ⟨⟨hkeys, fun hv => ?_⟩, hchildren⟩)
      rw [hvoid] at hv; cases hv
    · cases hn'

theorem closeTag (content : List Char) (span : Span) :
    Yields (n.closeTag content span) (Nesting.Tidy minify) := by
  rw [Nesting.closeTag]
  split
  · exact .error _
  · rename_i k hk
    have hn : Nesting.Tidy minify { n with unanswered := k } := ⟨h.top, h.opened⟩
    extract_lets
    split
    · exact .ok hn
    · exact hn.close _ span

/-- Whatever a piece is, it keeps everything tidy. -/
theorem take (span : Span) (p : Piece) : Yields (n.take minify span p) (Nesting.Tidy minify) := by
  cases p with
  | text first rest =>
      rw [Nesting.take]
      split
      · exact .ok (h.appendText _ span)
      · exact .error _
  | characterData content => exact .ok (h.appendText content span)
  | opening content => exact h.openTag content span
  | selfClosing content => exact h.selfClose content span
  | closing content => exact h.closeTag content span
  | comment _ => exact .ok h
  | instruction _ => exact .ok h
  | documentType _ _ => exact .ok h

/-- **Each step of reading keeps everything tidy.** -/
theorem step (p : Piece) : Yields (n.step minify p) (Nesting.Tidy minify) :=
  (h.take _ p).bind fun _ hn => .ok ⟨hn.top, hn.opened⟩

/-- What is read in the end is what stands at the top, since no element is open. -/
theorem finish : Yields n.finish fun tree => Everywhere (Read minify) (nodesOf tree) := by
  rw [Nesting.finish]
  split
  · exact .ok h.top
  · exact .error _

end Tidy

end Nesting

/-- **What a text is read as** has distinct keys, trimmed texts and no content where there must be
none, at every depth. -/
theorem yields_readTree (minify : Bool) (cs : List Char) :
    Yields (readTree minify cs) fun tree => Everywhere (Read minify) (nodesOf tree) := by
  rw [readTree]
  split
  rename_i ps fault _
  have hall : Yields (ps.foldlM (Nesting.step minify) Nesting.start) (Nesting.Tidy minify) :=
    Yields.foldlM (fun p _ _ hn => hn.step p) Nesting.tidy_start
  split
  · exact .error _
  · rename_i n hn
    split
    · exact .error _
    · exact (hall n hn).finish

end MarkupTemplates.Markup
