import MarkupTemplates.Markup.Node

/-!
# Writing markup

An element without children is written `<tag/>`, any other with an opening and a closing tag.  In a
text `&`, `<` and `>` are escaped, in an attribute value also `"`, so that neither a text nor a
value ever shows the character that would end it (`lt_not_mem_escapeText`,
`quote_not_mem_escapeValue`).
-/

namespace MarkupTemplates.Markup

/-- A character of a text as it is written. -/
def escapeTextChar (c : Char) : List Char :=
  if c = '&' then "&amp;".toList
  else if c = '<' then "&lt;".toList
  else if c = '>' then "&gt;".toList
  else [c]

/-- A character of an attribute value as it is written. -/
def escapeValueChar (c : Char) : List Char :=
  if c = '"' then "&quot;".toList else escapeTextChar c

/-- A text as it is written. -/
def escapeText (cs : List Char) : List Char := cs.flatMap escapeTextChar

/-- An attribute value as it is written between quotes. -/
def escapeValue (cs : List Char) : List Char := cs.flatMap escapeValueChar

theorem lt_not_mem_escapeText (cs : List Char) : '<' ∉ escapeText cs := by
  simp only [escapeText, List.mem_flatMap, not_exists, not_and]
  intro c _
  simp only [escapeTextChar]
  split
  · decide
  · split
    · decide
    · split
      · decide
      · simp; exact fun h => absurd h.symm (by assumption)

theorem quote_not_mem_escapeValue (cs : List Char) : '"' ∉ escapeValue cs := by
  simp only [escapeValue, List.mem_flatMap, not_exists, not_and]
  intro c _
  simp only [escapeValueChar, escapeTextChar]
  split
  · decide
  · split
    · decide
    · split
      · decide
      · split
        · decide
        · simp; exact fun h => absurd h.symm (by assumption)

/-- One attribute as it is written, with the blank before it. -/
def writeAttribute (pair : String × String) : List Char :=
  ' ' :: pair.1.toList ++ "=\"".toList ++ escapeValue pair.2.toList ++ ['"']

/-- The attributes of an element as they are written. -/
def Attributes.write (a : Attributes) : List Char := a.toList.flatMap writeAttribute

mutual

/-- A node as it is written. -/
def Node.write : Node → List Char
  | .text content => escapeText content.toList
  | .element tag attributes children =>
    '<' :: tag.toList ++ attributes.write ++
      (if children.isEmpty then "/>".toList
       else '>' :: writeAll children ++ "</".toList ++ tag.toList ++ ['>'])

/-- Nodes written one after the other. -/
def writeAll : List Node → List Char
  | [] => []
  | n :: ns => n.write ++ writeAll ns

end

/-- The markup of a list of nodes. -/
def markup (nodes : List Node) : String := String.ofList (writeAll nodes)

theorem writeAll_append (ms ns : List Node) : writeAll (ms ++ ns) = writeAll ms ++ writeAll ns := by
  induction ms with
  | nil => simp [writeAll]
  | cons m ms ih => simp [writeAll, ih]

end MarkupTemplates.Markup
