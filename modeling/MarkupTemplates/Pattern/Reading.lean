import MarkupTemplates.Pattern.Bracket
import MarkupTemplates.Pattern.Size
import MarkupTemplates.Text.Integer

/-!
# Reading a pattern

A pattern is read item by item: characters, classes, anchors, repetitions, bars, groups and flags.
`readItem` cuts off one item; `Assembly` puts items together, group within group.  `read?` answers
`none` for a text that is no pattern, and for a pattern that is too deep.  `readAll?` reads several
patterns, which together must not be too large.
-/

namespace MarkupTemplates.Pattern

/-! ### Items -/

/-- A pattern and how deep its description nests. -/
structure Part where
  /-- The pattern. -/
  pattern : Pattern
  /-- The depth. -/
  depth : Nat := 0
deriving Repr

/-- One item of a pattern. -/
inductive Item where
  /-- A pattern that is complete. -/
  | part (p : Part)
  /-- A repetition of what stands before it. -/
  | repetition (least : Nat) (most : Option Nat)
  /-- The bar between alternatives. -/
  | bar
  /-- The beginning of a group, with its name and the letters of its flags. -/
  | opening (name : Option String) (flags : List Char)
  /-- The end of a group. -/
  | closing
  /-- Flags for the rest of the group. -/
  | flags (letters : List Char)
deriving Repr

/-- An item and what it leaves of the text. -/
abbrev ItemRead := Option (Item × List Char)

/-- The item of a pattern that nests nothing. -/
def Item.flat (p : Pattern) : Item := .part ⟨p, 0⟩

/-- The character that stands for itself.  Of ASCII characters alone, letters have another case. -/
def literal (f : Flags) (c : Char) : Item :=
  .flat (.char (if f.ascii && c.toNat ≥ 128 then .single c else f.close (.single c)))

/-- The dot; there is none that stands for a single byte. -/
def dot? (f : Flags) : Option Item :=
  if f.ascii then none
  else if f.dotAll then some (.flat (.char .all))
  else
    let ends := if f.returns then (CharSet.single '\n').union (.single '\r') else .single '\n'
    some (.flat (.char ends.compl))

/-- The caret. -/
def caret (f : Flags) : Item :=
  .flat (.anchor (if f.lines then .lineStart f.returns else .textStart))

/-- The dollar sign. -/
def dollar (f : Flags) : Item := .flat (.anchor (if f.lines then .lineEnd f.returns else .textEnd))

/-- Reads a repetition; a question mark after it does not change what is matched. -/
def repetition (least : Nat) (most : Option Nat) : List Char → ItemRead
  | '?' :: rest => some (.repetition least most, rest)
  | rest => some (.repetition least most, rest)

/-- The decimal digits in front, with what does not count between them, and the text after them; `n`
can be the length of the text. -/
def readDigits (f : Flags) : Nat → List Char → List Char × List Char
  | n + 1, c :: cs =>
    if c.isDigit then
      let (digits, rest) := readDigits f n (f.skip cs)
      (c :: digits, rest)
    else ([], c :: cs)
  | _, cs => ([], cs)

/-- Reads a number of 32 bits that may stand between blanks. -/
def readCount (f : Flags) (cs : List Char) : Option Nat × List Char :=
  let (digits, rest) := readDigits f cs.length ((f.skip cs).dropWhile Text.isBlank)
  ((Text.readNat? digits).filter (· < Nat.pow 2 32), f.skip (rest.dropWhile Text.isBlank))

/-- Reads a counted repetition, given what stands after its brace. -/
def readCounted (f : Flags) (cs : List Char) : ItemRead :=
  let (least, rest) := readCount f cs
  match least, rest with
  | some least, '}' :: rest => repetition least (some least) (f.skip rest)
  | some least, ',' :: rest =>
    match f.skip rest with
    | '}' :: rest => repetition least none (f.skip rest)
    | rest =>
      match readCount f rest with
      | (some most, '}' :: rest) =>
        if least ≤ most then repetition least (some most) (f.skip rest) else none
      | _ => none
  | _, _ => none

/-- Whether a character may stand in the name of a group, where it may be the first. -/
def isGroupNameChar (first : Bool) (c : Char) : Bool :=
  if first then c == '_' || Text.isAlphabetic c
  else c == '_' || c == '.' || c == '[' || c == ']' || Text.isAlphanumeric c

/-- Reads the name of a group up to the bracket that ends it. -/
def readGroupName (cs : List Char) : ItemRead :=
  match cs.takeWhile (· != '>'), cs.dropWhile (· != '>') with
  | c :: name, _ :: rest =>
    if isGroupNameChar true c && name.all (isGroupNameChar false) then
      some (.opening (some (String.ofList (c :: name))) [], rest)
    else none
  | _, _ => none

/-- Reads the beginning of a group, given what stands after its parenthesis. -/
def readGroup : List Char → ItemRead
  | '?' :: 'P' :: '<' :: cs => readGroupName cs
  | '?' :: '<' :: cs => readGroupName cs
  | '?' :: cs =>
    let letters := cs.takeWhile fun c => c != ':' && c != ')'
    match cs.dropWhile fun c => c != ':' && c != ')' with
    | ':' :: rest => some (.opening none letters, rest)
    | ')' :: rest => if letters.isEmpty then none else some (.flags letters, rest)
    | _ => none
  | cs => some (.opening none [], cs)

/-- Reads the item that begins with `c`. -/
def readItem (f : Flags) (c : Char) (cs : List Char) : ItemRead :=
  match c with
  | '(' => readGroup (f.skip cs)
  | ')' => some (.closing, cs)
  | '|' => some (.bar, cs)
  | '?' => repetition 0 (some 1) cs
  | '*' => repetition 0 none cs
  | '+' => repetition 1 none cs
  | '{' => readCounted f cs
  | '.' => (dot? f).map fun item => (item, cs)
  | '^' => some (caret f, cs)
  | '$' => some (dollar f, cs)
  | '[' => do
    let (p, rest) := openClass f cs
    let (s, rest) ← readClass f (cs.length + 1) p [] rest
    return (.part ⟨.char s.set, s.depth⟩, rest)
  | '\\' => do
    let (e, rest) ← readEscape f cs
    match e with
    | .literal c => return (literal f c, rest)
    | .set s => return (.flat (.char s), rest)
    | .anchor a => return (.flat (.anchor a), rest)
  | _ => some (literal f c, cs)

/-! ### Putting items together -/

/-- A group that is being read. -/
structure OpenGroup where
  /-- The flags that hold now. -/
  flags : Flags := {}
  /-- The alternatives before the last bar. -/
  before : Option Part := none
  /-- The parts of the current alternative, the last one first; `none` stands for flags. -/
  parts : List (Option Part) := []
deriving Repr

namespace OpenGroup

/-- The group with one part more. -/
def push (g : OpenGroup) (p : Part) : OpenGroup := { g with parts := some p :: g.parts }

/-- The current alternative.  Several parts together lie one level deeper than one. -/
def current (g : OpenGroup) : Part :=
  let parts := g.parts.filterMap id
  let depth := (parts.map (·.depth)).foldl max 0
  ⟨(parts.map (·.pattern)).foldl (fun q p => Pattern.seq p q) .empty,
    depth + if g.parts.length ≤ 1 then 0 else 1⟩

/-- The alternatives with the current one among them. -/
def alternatives (g : OpenGroup) : Part :=
  match g.before with
  | some p => ⟨.alt p.pattern g.current.pattern, max p.depth g.current.depth⟩
  | none => g.current

/-- What the group holds if it ends here.  Alternatives lie one level deeper than one of them. -/
def content (g : OpenGroup) : Part :=
  ⟨g.alternatives.pattern, g.alternatives.depth + if g.before.isSome then 1 else 0⟩

end OpenGroup

/-- The groups that are open. -/
structure Assembly where
  /-- The innermost group. -/
  inner : OpenGroup := {}
  /-- The groups around it, the innermost first. -/
  outer : List OpenGroup := []
  /-- The names of the groups so far. -/
  names : List String := []
deriving Repr

namespace Assembly

/-- The assembly after one item more. -/
def step (a : Assembly) : Item → Option Assembly
  | .part p => some { a with inner := a.inner.push p }
  | .repetition least most =>
    match a.inner.parts with
    | some p :: parts =>
      let p : Part := ⟨.repeated p.pattern least most, p.depth + 1⟩
      some { a with inner.parts := some p :: parts }
    | _ => none
  | .bar =>
    some { a with inner := { a.inner with before := some a.inner.alternatives, parts := [] } }
  | .opening name letters => do
    let flags ← a.inner.flags.change letters
    match name with
    | none => some { a with inner := { flags }, outer := a.inner :: a.outer }
    | some name =>
      if a.names.contains name then none
      else some ⟨{ flags }, a.inner :: a.outer, name :: a.names⟩
  | .closing =>
    match a.outer with
    | [] => none
    | g :: outer =>
      let p := a.inner.content
      some { a with inner := g.push ⟨p.pattern, p.depth + 1⟩, outer }
  | .flags letters => do
    let flags ← a.inner.flags.change letters
    some { a with inner.flags := flags, inner.parts := none :: a.inner.parts }

/-- The pattern if the text ends here. -/
def finish (a : Assembly) : Option Part := if a.outer.isEmpty then some a.inner.content else none

/-- Reads items to the end.  As each takes a character, `n` can be the length of the text. -/
def readItems : Nat → Assembly → List Char → Option Assembly
  | n, a, cs =>
    match n, a.inner.flags.skip cs with
    | _, [] => some a
    | 0, _ :: _ => none
    | n + 1, c :: cs => do
      let (item, rest) ← readItem a.inner.flags c cs
      readItems n (← a.step item) rest

end Assembly

/-! ### Patterns -/

/-- The depth to which groups, classes, repetitions, alternatives and sequences may nest. -/
def depthLimit : Nat := 250

/-- Reads a pattern. -/
def read? (s : String) : Option Pattern := do
  let cs := s.toList
  let a ← Assembly.readItems cs.length {} cs
  let p ← a.finish
  if p.depth ≤ depthLimit then some p.pattern else none

/-- Reads patterns that are not too large together. -/
def readAll? (texts : List String) : Option (List Pattern) := do
  let ps ← texts.mapM read?
  if sizeOfAll ps ≤ sizeLimit then some (ps.map simplified) else none

end MarkupTemplates.Pattern
