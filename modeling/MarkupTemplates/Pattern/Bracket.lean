import MarkupTemplates.Pattern.Escape

/-!
# Classes in brackets

A class in brackets names characters, ranges and other classes, and combines them by the operators
`&&`, `--` and `~~`, which take all that stands to the left of them.  `readClass` reads a class with
the classes within it; how deep these nest is counted, since patterns must not be deep.
-/

namespace MarkupTemplates.Pattern

/-- How two parts of a class in brackets combine. -/
inductive SetOperator where
  /-- What both have. -/
  | inter
  /-- What only the left one has. -/
  | diff
  /-- What only one of them has. -/
  | symmDiff
deriving DecidableEq, Repr

/-- The combination of two sets. -/
def SetOperator.apply (s t : CharSet) : SetOperator → CharSet
  | .inter => .inter s t
  | .diff => .diff s t
  | .symmDiff => .symmDiff s t

/-- A set of characters and how deep its description nests. -/
structure DeepSet where
  /-- The set. -/
  set : CharSet
  /-- The depth. -/
  depth : Nat := 0
deriving Repr

/-- A class in brackets that is being read. -/
structure ClassPart where
  /-- Whether the class is what is not named. -/
  negated : Bool
  /-- What stands to the left of the last operator. -/
  left : Option (DeepSet × SetOperator) := none
  /-- How many things have been named since. -/
  count : Nat := 0
  /-- What has been named since. -/
  named : DeepSet := ⟨.none, 0⟩
deriving Repr

namespace ClassPart

/-- The class with more in it. -/
def add (p : ClassPart) (s : DeepSet) : ClassPart :=
  { p with count := p.count + 1, named := ⟨p.named.set.union s.set, max p.named.depth s.depth⟩ }

/-- What is to the left of the next operator.  Several things together lie one level deeper than
one, and so do the two sides of an operator. -/
def value (p : ClassPart) : DeepSet :=
  let right : DeepSet := ⟨p.named.set, p.named.depth + if p.count ≤ 1 then 0 else 1⟩
  match p.left with
  | some (s, op) => ⟨op.apply s.set right.set, max s.depth right.depth + 1⟩
  | none => right

/-- The class after an operator. -/
def combine (p : ClassPart) (op : SetOperator) : ClassPart :=
  { p with left := some (p.value, op), count := 0, named := ⟨.none, 0⟩ }

/-- The set of a class that is complete. -/
def finish (f : Flags) (p : ClassPart) : Option DeepSet :=
  (f.negate p.negated p.value.set).map fun s => ⟨s, p.value.depth + 1⟩

end ClassPart

/-- Adds hyphens that stand for themselves; `n` can be the length of the text. -/
def readHyphens (f : Flags) : Nat → ClassPart → List Char → ClassPart × List Char
  | 0, p, cs => (p, cs)
  | n + 1, p, cs =>
    match f.skip cs with
    | '-' :: rest => readHyphens f n (p.add ⟨.single '-', 0⟩) rest
    | cs => (p, cs)

/-- Reads the beginning of a class in brackets, given what stands after its bracket: a caret, and
then hyphens or else a closing bracket, which stand for themselves. -/
def openClass (f : Flags) (cs : List Char) : ClassPart × List Char :=
  let (negated, cs) := match f.skip cs with
    | '^' :: rest => (true, rest)
    | cs => (false, cs)
  match readHyphens f (cs.length + 1) { negated } cs with
  | (p, ']' :: rest) => if p.count = 0 then (p.add ⟨.single ']', 0⟩, rest) else (p, ']' :: rest)
  | (p, rest) => (p, rest)

/-- Reads the name of a set of ASCII characters, given what stands after `[:`; a caret negates
it. -/
def readNamedSet (cs : List Char) : Option ((Bool × CharSet) × List Char) :=
  let (negated, cs) := match cs with
    | '^' :: rest => (true, rest)
    | _ => (false, cs)
  match cs.dropWhile (· != ':') with
  | ':' :: ']' :: rest =>
    (CharSet.named? (String.ofList (cs.takeWhile (· != ':')))).map fun s => ((negated, s), rest)
  | _ => none

/-- Reads one end of a range in a class. -/
def readClassItem (f : Flags) : List Char → EscapeRead
  | [] => none
  | '\\' :: cs => readEscape f cs
  | c :: cs => some (.literal c, cs)

/-- The code point of an end of a range, which must be an ASCII character if only those are
meant. -/
def rangeEnd? (f : Flags) : Escape → Option Nat
  | .literal c => if f.ascii && c.toNat ≥ 128 then none else some c.toNat
  | _ => none

/-- The next character that counts; behind a number sign, it is looked for without a remark. -/
def peek (f : Flags) (cs : List Char) : Option Char :=
  if !f.verbose then cs.head?
  else
    match cs.dropWhile Text.isBlank with
    | '#' :: rest => (rest.dropWhile Text.isBlank).head?
    | rest => rest.head?

/-- Reads a character, an escape or a range in a class. -/
def readRange (f : Flags) (cs : List Char) : Option (CharSet × List Char) := do
  let (first, rest) ← readClassItem f cs
  let alone (rest : List Char) : Option (CharSet × List Char) :=
    match first with
    | .set s => some (s, rest)
    | e => (rangeEnd? f e).map fun n => (f.close (.range n n), rest)
  match f.skip rest with
  | [] => none
  | '-' :: more =>
    let next := peek f more
    if next = some ']' || next = some '-' then alone ('-' :: more)
    else do
      let (last, rest) ← readClassItem f (f.skip more)
      let a ← rangeEnd? f first
      let b ← rangeEnd? f last
      if a ≤ b then some (f.close (.range a b), rest) else none
  | rest => alone rest

/-- Reads what is left of a class in brackets: the innermost class that is open, those around it,
and what stands in the text.  As each round takes a character, `n` can be the length of the text. -/
def readClass (f : Flags) (n : Nat) (inner : ClassPart) (outer : List ClassPart) (cs : List Char) :
    Option (DeepSet × List Char) :=
  match n with
  | 0 => none
  | n + 1 =>
    match f.skip cs with
    | [] => none
    | ']' :: rest => do
      let s ← inner.finish f
      match outer with
      | [] => some (s, rest)
      | p :: outer => readClass f n (p.add s) outer rest
    | '&' :: '&' :: rest => readClass f n (inner.combine .inter) outer rest
    | '-' :: '-' :: rest => readClass f n (inner.combine .diff) outer rest
    | '~' :: '~' :: rest => readClass f n (inner.combine .symmDiff) outer rest
    | '[' :: rest =>
      let named := match rest with
        | ':' :: name => readNamedSet name
        | _ => none
      match named with
      | some ((negated, s), rest) => do
        readClass f n (inner.add ⟨← f.negate negated (f.close s), 0⟩) outer rest
      | none =>
        let (p, rest) := openClass f rest
        readClass f n p (inner :: outer) rest
    | cs => do
      let (s, rest) ← readRange f cs
      readClass f n (inner.add ⟨s, 0⟩) outer rest

end MarkupTemplates.Pattern
