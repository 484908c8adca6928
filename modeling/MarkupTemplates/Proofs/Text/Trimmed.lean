import MarkupTemplates.Text.Blank

/-!
# Trimmed texts

A text is *trimmed* if it neither begins nor ends with a blank character.  These are the texts that
trimming leaves as they are (`trimList_eq_self_iff`), and every text is one after trimming; trimmed
texts put one after the other make a trimmed text.
-/

namespace MarkupTemplates.Text

/-- The text neither begins nor ends with a blank character. -/
def Trimmed (cs : List Char) : Prop :=
  (∀ c ∈ cs.head?, isBlank c = false) ∧ ∀ c ∈ cs.getLast?, isBlank c = false

theorem Trimmed.append {cs ds : List Char} (hc : Trimmed cs) (hd : Trimmed ds) :
    Trimmed (cs ++ ds) := by
  constructor
  · intro c h
    cases cs with
    | nil => exact hd.1 c h
    | cons a as => exact hc.1 c h
  · intro c h
    rw [List.getLast?_append] at h
    cases hl : ds.getLast? with
    | none => rw [hl] at h; exact hc.2 c h
    | some d => rw [hl] at h; exact hd.2 c (hl ▸ h)

theorem dropWhile_eq_self {p : Char → Bool} {cs : List Char}
    (h : ∀ c ∈ cs.head?, p c = false) : cs.dropWhile p = cs := by
  cases cs with
  | nil => rfl
  | cons c cs => rw [List.dropWhile_cons_of_neg]; simp [h c rfl]

theorem head?_dropWhile {p : Char → Bool} (cs : List Char) :
    ∀ c ∈ (cs.dropWhile p).head?, p c = false := by
  intro c hc
  induction cs with
  | nil => cases hc
  | cons d ds ih =>
      by_cases hd : p d = true
      · rw [List.dropWhile_cons_of_pos hd] at hc
        exact ih hc
      · rw [List.dropWhile_cons_of_neg hd] at hc
        cases hc; simpa using hd

/-- A trimmed text stays as it is when it is trimmed. -/
theorem Trimmed.trimList_eq {cs : List Char} (h : Trimmed cs) : trimList cs = cs := by
  rw [trimList, dropWhile_eq_self h.1, trimEndList, dropWhile_eq_self, List.reverse_reverse]
  simpa using h.2

/-- Trimming leaves a trimmed text. -/
theorem trimmed_trimList (cs : List Char) : Trimmed (trimList cs) := by
  constructor
  · -- what is left at the end begins as it did before
    have hbegin : trimList cs <+: cs.dropWhile isBlank := by
      rw [trimList, trimEndList]
      have hsuffix := List.dropWhile_suffix isBlank (l := (cs.dropWhile isBlank).reverse)
      simpa using List.reverse_prefix.mpr hsuffix
    obtain ⟨rest, hrest⟩ := hbegin
    intro c hc
    refine head?_dropWhile (p := isBlank) cs c ?_
    rw [← hrest]
    cases ht : trimList cs with
    | nil => rw [ht] at hc; cases hc
    | cons a as => rw [ht] at hc; exact hc
  · intro c hc
    rw [trimList, trimEndList, List.getLast?_reverse] at hc
    exact head?_dropWhile _ c hc

/-- **Trimming leaves exactly the trimmed texts as they are.** -/
theorem trimList_eq_self_iff {cs : List Char} : trimList cs = cs ↔ Trimmed cs :=
  ⟨fun h => h ▸ trimmed_trimList cs, Trimmed.trimList_eq⟩

theorem trim_eq_self_iff {s : String} : trim s = s ↔ Trimmed s.toList := by
  rw [← trimList_eq_self_iff, trim, ← String.toList_inj, String.toList_ofList]

@[simp] theorem trim_trim {s : String} : trim (trim s) = trim s := by
  rw [trim_eq_self_iff, trim, String.toList_ofList]
  exact trimmed_trimList s.toList

/-- A text is blank before it is trimmed and afterwards, or neither. -/
@[simp] theorem isBlankText_trim {s : String} : isBlankText (trim s) = isBlankText s := by
  rw [Bool.eq_iff_iff, ← trim_eq_empty_iff, ← trim_eq_empty_iff, trim_trim]

/-! ### Blanks at the ends -/

/-- A text is what is left of it, between blanks. -/
theorem exists_append_trimList (cs : List Char) :
    ∃ front back, cs = front ++ trimList cs ++ back ∧ (∀ c ∈ front, isBlank c = true) ∧
      ∀ c ∈ back, isBlank c = true := by
  refine ⟨cs.takeWhile isBlank, ((cs.dropWhile isBlank).reverse.takeWhile isBlank).reverse, ?_,
    List.all_eq_true.mp List.all_takeWhile,
    fun c hc => List.all_eq_true.mp List.all_takeWhile c (List.mem_reverse.mp hc)⟩
  rw [trimList, trimEndList, List.append_assoc, ← List.reverse_append,
    List.takeWhile_append_dropWhile, List.reverse_reverse, List.takeWhile_append_dropWhile]

/-- Blanks around a text are no part of what is left of it. -/
theorem trimList_append_append {front back : List Char} (hfront : ∀ c ∈ front, isBlank c = true)
    (hback : ∀ c ∈ back, isBlank c = true) (cs : List Char) :
    trimList (front ++ cs ++ back) = trimList cs := by
  have hend : ∀ ds, trimEndList (ds ++ back) = trimEndList ds := fun ds => by
    rw [trimEndList, trimEndList, List.reverse_append,
      List.dropWhile_append_of_pos fun c hc => hback c (List.mem_reverse.mp hc)]
  rw [trimList, trimList, List.append_assoc, List.dropWhile_append_of_pos hfront,
    List.dropWhile_append]
  split
  · rename_i hnil
    rw [List.isEmpty_iff.mp hnil, dropWhile_eq_nil_iff_all.mpr (List.all_eq_true.mpr hback)]
  · exact hend _

/-- Characters may be taken out of a text before it is trimmed or afterwards, if it is trimmed again
then. -/
theorem trimList_filter_trimList (p : Char → Bool) (cs : List Char) :
    trimList ((trimList cs).filter p) = trimList (cs.filter p) := by
  obtain ⟨front, back, hsplit, hfront, hback⟩ := exists_append_trimList cs
  have hfilter : cs.filter p =
      front.filter p ++ (trimList cs).filter p ++ back.filter p := by
    rw [← List.filter_append, ← List.filter_append, ← hsplit]
  rw [hfilter, trimList_append_append (fun c hc => hfront c (List.mem_filter.mp hc).1)
    fun c hc => hback c (List.mem_filter.mp hc).1]

end MarkupTemplates.Text
