import MarkupTemplates.Markup.Nesting

/-!
# Reading a tree piece by piece

`Nesting.readFrom` reads what is left of a text once a tree has come so far, and one piece of the
text is one step of it (`readFrom_of_read`).  `Nesting.extend` adds complete nodes to a tree; every
piece that completes nodes does just this.
-/

namespace MarkupTemplates.Markup

open Text (Span byteLength)

/-- The first piece of a text, and then the pieces of the rest. -/
theorem pieces_of_read {c : Char} {cs rest : List Char} {p : Piece}
    (h : Piece.read c cs = .ok (p, rest)) :
    pieces (c :: cs) = (p :: (pieces rest).1, (pieces rest).2) := by
  rw [pieces]
  split
  · rename_i p₁ rest₁ h₁
    rw [h] at h₁; cases h₁; rfl
  · rename_i fault hfault
    rw [h] at hfault; cases hfault

/-- A text without a faulty piece is read piece by piece. -/
theorem readTree_of_pieces {minify : Bool} {cs : List Char} {ps : List Piece}
    (h : pieces (dropMark cs) = (ps, none)) :
    readTree minify cs =
      (ps.foldlM (Nesting.step minify) Nesting.start >>= Nesting.finish) := by
  simp only [readTree, h]
  cases ps.foldlM (Nesting.step minify) Nesting.start with
  | error e => rfl
  | ok n => rfl

/-- What it takes to read a tree: pieces to the end of the text, and no element left open. -/
theorem exists_pieces_of_readTree {minify : Bool} {cs : List Char} {tree : List Located}
    (h : readTree minify cs = .ok tree) :
    ∃ ps n, pieces (dropMark cs) = (ps, none) ∧
      ps.foldlM (Nesting.step minify) Nesting.start = .ok n ∧ n.opened = [] ∧ n.top = tree := by
  obtain ⟨ps, fault, hpieces⟩ : ∃ ps fault, pieces (dropMark cs) = (ps, fault) := ⟨_, _, rfl⟩
  simp only [readTree, hpieces] at h
  split at h
  · cases h
  · rename_i n hn
    split at h
    · cases h
    · rw [Nesting.finish] at h
      split at h
      · rename_i hopened
        exact ⟨ps, n, hpieces, hn, hopened, Except.ok.inj h⟩
      · cases h

/-- Two rows of pieces that are read one behind the other. -/
theorem exists_of_foldlM_append {minify : Bool} {ps qs : List Piece} {n m : Nesting}
    (h : (ps ++ qs).foldlM (Nesting.step minify) n = .ok m) :
    ∃ n', ps.foldlM (Nesting.step minify) n = .ok n' ∧
      qs.foldlM (Nesting.step minify) n' = .ok m := by
  rw [List.foldlM_append] at h
  cases hn : ps.foldlM (Nesting.step minify) n with
  | error e => rw [hn] at h; cases h
  | ok n' => rw [hn] at h; exact ⟨n', rfl, h⟩

/-- What was read of a text up to a place between two of its pieces, and what from there on. -/
theorem exists_foldlM_of_readTree {minify : Bool} {cs : List Char} {ps qs : List Piece}
    {tree : List Located} (h : readTree minify cs = .ok tree)
    (hpieces : pieces (dropMark cs) = (ps ++ qs, none)) :
    ∃ n m, ps.foldlM (Nesting.step minify) Nesting.start = .ok n ∧
      qs.foldlM (Nesting.step minify) n = .ok m ∧ m.finish = .ok tree := by
  rw [readTree_of_pieces hpieces] at h
  cases hm : (ps ++ qs).foldlM (Nesting.step minify) Nesting.start with
  | error e => rw [hm] at h; cases h
  | ok m =>
      rw [hm] at h
      obtain ⟨n, hn, hm⟩ := exists_of_foldlM_append hm
      exact ⟨n, m, hn, hm, h⟩

namespace Nesting

/-! ### One piece after the other -/

/-- Reads the rest of a text, the tree having come so far. -/
def readFrom (minify : Bool) (n : Nesting) (cs : List Char) :
    Except NestingError (List Located) :=
  match (pieces cs).1.foldlM (step minify) n with
  | .error e => .error e
  | .ok n =>
    match (pieces cs).2 with
    | some fault => .error ⟨.byteAt (n.offset + fault.distance), .piece fault⟩
    | none => n.finish

/-- A text is read from the beginning, behind the mark that may open it. -/
theorem readTree_eq_readFrom (minify : Bool) (cs : List Char) :
    readTree minify cs = start.readFrom minify (dropMark cs) := rfl

theorem readFrom_nil (minify : Bool) (n : Nesting) : n.readFrom minify [] = n.finish := by
  rw [readFrom, pieces]; rfl

/-- One piece is one step. -/
theorem readFrom_of_read {minify : Bool} {n n' : Nesting} {c : Char} {cs rest : List Char}
    {p : Piece} (hread : Piece.read c cs = .ok (p, rest)) (hstep : n.step minify p = .ok n') :
    n.readFrom minify (c :: cs) = n'.readFrom minify rest := by
  simp only [readFrom, pieces_of_read hread, List.foldlM_cons, hstep]
  rfl

/-- Text with pieces of its own is read, and then what comes after it. -/
theorem readFrom_append {minify : Bool} {n m : Nesting} {xs cs : List Char} {ps : List Piece}
    (hpieces : pieces (xs ++ cs) = (ps ++ (pieces cs).1, (pieces cs).2))
    (hm : ps.foldlM (step minify) n = .ok m) :
    n.readFrom minify (xs ++ cs) = m.readFrom minify cs := by
  simp only [readFrom, hpieces, List.foldlM_append, hm]
  rfl

/-- A step takes in a piece and counts its bytes. -/
theorem step_of_take {minify : Bool} {n n' : Nesting} {p : Piece}
    (h : n.take minify ⟨n.offset, n.offset + byteLength p.source⟩ p = .ok n') :
    n.step minify p = .ok { n' with offset := n.offset + byteLength p.source } := by
  rw [step, h]; rfl

/-- A piece that is read is taken at its place, and the text goes on behind it. -/
theorem exists_take_of_step {minify : Bool} {n m : Nesting} {p : Piece}
    (h : n.step minify p = .ok m) :
    ∃ n', n.take minify ⟨n.offset, n.offset + byteLength p.source⟩ p = .ok n' ∧
      m = { n' with offset := n.offset + byteLength p.source } := by
  rw [step] at h
  cases htake : n.take minify ⟨n.offset, n.offset + byteLength p.source⟩ p with
  | error e => rw [htake] at h; cases h
  | ok n' => rw [htake] at h; cases h; exact ⟨n', rfl, rfl⟩

/-! ### Complete nodes -/

/-- The nesting with complete nodes added to the innermost open element, the text having been read
up to byte `stop`. -/
def extend (n : Nesting) (nodes : List Located) (stop : Nat) : Nesting :=
  match n.opened with
  | [] => { n with offset := stop, top := n.top ++ nodes }
  | e :: outer =>
    { n with offset := stop, opened := { e with children := e.children ++ nodes } :: outer }

@[simp] theorem extend_offset (n : Nesting) (nodes : List Located) (stop : Nat) :
    (n.extend nodes stop).offset = stop := by
  rw [extend]; split <;> rfl

theorem extend_nil_eq (n : Nesting) (stop : Nat) : n.extend [] stop = { n with offset := stop } := by
  obtain ⟨offset, unanswered, opened, top⟩ := n
  cases opened <;> simp [extend]

theorem extend_nil (n : Nesting) : n.extend [] n.offset = n := n.extend_nil_eq n.offset

/-- Nodes that are added in two goes are added in one. -/
theorem extend_extend (n : Nesting) (a b : List Located) (k l : Nat) :
    (n.extend a k).extend b l = n.extend (a ++ b) l := by
  obtain ⟨offset, unanswered, opened, top⟩ := n
  cases opened <;> simp [extend]

theorem append_eq_extend (n : Nesting) (node : Located) (stop : Nat) :
    { n.append node with offset := stop } = n.extend [node] stop := by
  obtain ⟨offset, unanswered, opened, top⟩ := n
  cases opened <;> rfl

/-- The nesting within an element whose opening tag ends at byte `start`. -/
def enter (n : Nesting) (tag : String) (attributes : Attributes) (start : Nat) : Nesting :=
  ⟨start, n.unanswered + 1, ⟨tag, attributes, [], ⟨n.offset, start⟩⟩ :: n.opened, n.top⟩

/-- Where no element is open the nodes that are added are the last of the tree. -/
theorem finish_extend {n : Nesting} (h : n.opened = []) (nodes : List Located) (stop : Nat) :
    (n.extend nodes stop).finish = .ok (n.top ++ nodes) := by
  rw [extend, h, finish]

end Nesting

end MarkupTemplates.Markup
