import MarkupTemplates.Text.Age
import MarkupTemplates.Text.Boundary

/-!
# Properties by name

Classes of characters have names, and properties with values have names for both.  Names are
compared loosely (`looseName`).  `named?` finds the class of a single name, `valued?` that of a
property with a value; both answer `none` for names that are not known.
-/

namespace MarkupTemplates.Text

/-- A name without what does not count in it: `is` at its beginning, spaces, hyphens, low lines,
case, and characters beyond ASCII.  The name `isc` stays, as it stands for something else than
`c`. -/
def looseName (s : String) : String :=
  let cs := s.toList
  let hasPrefix := (cs.take 2).map Char.toLower == ['i', 's']
  let kept := (if hasPrefix then cs.drop 2 else cs).filter fun c =>
    c.toNat < 128 && c != ' ' && c != '_' && c != '-'
  let name := String.ofList (kept.map Char.toLower)
  if hasPrefix && name == "c" then "isc" else name

/-- Whether one of several names is meant by a loose name. -/
def isNamed (names : List String) (name : String) : Bool := names.any fun s => looseName s == name

/-- The class of a general category, or of a group of them. -/
def category? (name : String) : Option Ranges :=
  if name == "any" then some [(0, lastCodePoint)]
  else if name == "ascii" then some [(0, 127)]
  else if name == "assigned" then some (complementRanges unassignedRanges)
  else if isNamed ["Cn", "Unassigned"] name then some unassignedRanges
  else if isNamed ["C", "Other"] name then
    some (tidyRanges (GeneralCategory.rangesOf [.cc, .cf, .co] ++ unassignedRanges))
  else
    match GeneralCategory.all.find? fun c => isNamed c.names name with
    | some c => some (GeneralCategory.rangesOf [c])
    | none =>
      (GeneralCategory.groups.find? fun g => isNamed g.1 name).map fun g =>
        GeneralCategory.rangesOf g.2

/-- The script of a name. -/
def script? (name : String) : Option Script := Script.all.find? fun s => isNamed s.names name

/-- The class of a property that holds or does not. -/
def binary? (name : String) : Option Ranges :=
  (binaryProperties.find? fun p => isNamed p.names name).map fun p => p.ranges ()

/-- The class of the code points that a version knows. -/
def age? (name : String) : Option Ranges :=
  (ageRows.find? fun r => name == r.1 || name == "v" ++ r.1.replace "." "").map fun r =>
    ageRanges r.1

/-- The class of a name among boundary classes. -/
def boundary? (classes : List NamedClass) (name : String) : Option Ranges :=
  (classes.find? fun c => isNamed c.names name).map fun c => c.ranges ()

/-- The class of a name: a property that holds or does not, a general category or a script. -/
def named? (name : String) : Option Ranges :=
  let name := looseName name
  binary? name <|> category? name <|> (script? name).map (·.ranges)

/-- The class of a property with a value. -/
def valued? (property value : String) : Option Ranges :=
  let property := looseName property
  let value := looseName value
  if isNamed ["gc", "General_Category"] property then category? value
  else if isNamed ["sc", "Script"] property then (script? value).map (·.ranges)
  else if isNamed ["scx", "Script_Extensions"] property then (script? value).map (·.extendedRanges)
  else if property == "age" then age? value
  else if isNamed ["gcb", "Grapheme_Cluster_Break"] property then boundary? graphemeClasses value
  else if isNamed ["wb", "Word_Break"] property then boundary? wordClasses value
  else if isNamed ["sb", "Sentence_Break"] property then boundary? sentenceClasses value
  else none

example : looseName "Is_Upper-case Letter" = "uppercaseletter" := by decide

end MarkupTemplates.Text
