import MarkupTemplates.Path.Basic
import MarkupTemplates.Path.Token
import MarkupTemplates.Text.Blank

/-!
# Reading a path

A path is read token by token.  A `Place` is where in the grammar

    path      = [['.'] separator] step (separator step)*
    separator = '/' | '//'
    step      = ('*' | name) ('[' '@' name ['=' string] ']')*

the reading stands, together with what is still unfinished there; `Place.expected` lists the tokens
that messages offer at the place.  Every place can still lead to a path, so a fault is the first
token that cannot continue (`Reading.advance` answers `none`), or the end of the text at a place
where no path may end.  The span of an end reaches from the end of the text back to the end of the
last token, which is before it if blanks follow that token.
-/

namespace MarkupTemplates.Path

open Text (Span byteLength)

/-- Where in the grammar a reading stands. -/
inductive Place where
  /-- Nothing has been read. -/
  | start
  /-- After the dot at the beginning. -/
  | anchored
  /-- After a separator. -/
  | separated (axis : Axis)
  /-- After a tag test or a predicate. -/
  | stepped (step : Step)
  /-- After `[`. -/
  | bracketed (step : Step)
  /-- After `@`. -/
  | attributed (step : Step)
  /-- After the name of a predicate. -/
  | named (step : Step) (name : String)
  /-- After `=`. -/
  | equated (step : Step) (name : String)
  /-- After the string of a predicate. -/
  | valued (step : Step) (name value : String)
deriving DecidableEq, Repr

/-- What messages offer as continuations of a place. -/
def Place.expected : Place → List String
  | .start => ["'.'", "'//'", "'/'", "'*'"]
  | .anchored => ["'//'", "'/'"]
  | .separated _ => ["'*'"]
  | .stepped _ => ["'['", "'//'", "'/'", "end of path"]
  | .bracketed _ => ["'@'"]
  | .attributed _ => []
  | .named _ _ => ["'='", "']'"]
  | .equated _ _ => []
  | .valued _ _ _ => ["']'"]

/-- A reading: the steps that are complete, and where it stands after them. -/
structure Reading where
  /-- The complete steps. -/
  steps : List Step
  /-- Where the reading stands. -/
  place : Place
deriving DecidableEq, Repr

namespace Reading

/-- The reading of nothing. -/
def begin : Reading := ⟨[], .start⟩

/-- The direction a separator stands for. -/
def axis? : Symbol → Option Axis
  | .slash => some .child
  | .doubleSlash => some .descendant
  | _ => none

/-- The tag test a symbol stands for. -/
def test? : Symbol → Option TagTest
  | .star => some .any
  | .name text => some (.named text)
  | _ => none

/-- The step with one predicate more. -/
def addPredicate (step : Step) (p : Predicate) : Step :=
  { step with predicates := step.predicates ++ [p] }

/-- The place after a symbol, with the step that the symbol completes, if any. -/
def next (place : Place) (symbol : Symbol) : Option (Option Step × Place) :=
  match place with
  | .start =>
    match axis? symbol, test? symbol with
    | some axis, _ => some (none, .separated axis)
    | none, some test => some (none, .stepped ⟨.child, test, []⟩)
    | none, none => if symbol = .dot then some (none, .anchored) else none
  | .anchored => (axis? symbol).map fun axis => (none, .separated axis)
  | .separated axis => (test? symbol).map fun test => (none, .stepped ⟨axis, test, []⟩)
  | .stepped step =>
    match axis? symbol with
    | some axis => some (some step, .separated axis)
    | none => if symbol = .openBracket then some (none, .bracketed step) else none
  | .bracketed step => if symbol = .at then some (none, .attributed step) else none
  | .attributed step =>
    match symbol with
    | .name name => some (none, .named step name)
    | _ => none
  | .named step name =>
    if symbol = .equals then some (none, .equated step name)
    else if symbol = .closeBracket then some (none, .stepped (addPredicate step (.present name)))
    else none
  | .equated step name =>
    match symbol with
    | .string value => some (none, .valued step name value)
    | _ => none
  | .valued step name value =>
    if symbol = .closeBracket then some (none, .stepped (addPredicate step (.equal name value)))
    else none

/-- The reading after one symbol more, or `none` if the symbol cannot follow. -/
def advance (reading : Reading) (symbol : Symbol) : Option Reading :=
  (next reading.place symbol).map fun (step, place) => ⟨reading.steps ++ step.toList, place⟩

/-- The steps of a path that ends here. -/
def finish (reading : Reading) : Option (List Step) :=
  match reading.place with
  | .stepped step => some (reading.steps ++ [step])
  | _ => none

end Reading

/-- Why a text is no path: what stands where nothing of the kind may stand. -/
structure Fault where
  /-- Where it stands. -/
  span : Span
  /-- What stands there; `none` is the end of the text. -/
  found : Option Symbol
  /-- What could have stood there. -/
  expected : List String
deriving DecidableEq, Repr

/-- The fault in words. -/
def Fault.message (fault : Fault) : String :=
  match fault.found with
  | some symbol => "Unexpected " ++ symbol.describe
  | none => "Unexpected end of path"

/-- Reads tokens to the end; `length` is the length of the text they come from, and `stop` is where
the token before them ends. -/
def readTokens (length stop : Nat) (reading : Reading) : List Token → Except Fault (List Step)
  | [] =>
    match reading.finish with
    | some steps => .ok steps
    | none => .error ⟨⟨length, stop⟩, none, reading.place.expected⟩
  | token :: rest =>
    match reading.advance token.symbol with
    | some reading => readTokens length token.span.stop reading rest
    | none => .error ⟨token.span, some token.symbol, reading.place.expected⟩

/-- Reads a path.  A text without tokens ends where its last token would. -/
def read (s : String) : Except Fault Path := do
  let length := byteLength s.toList
  let steps ← readTokens length length .begin (tokens s)
  return ⟨Text.trim s, steps⟩

end MarkupTemplates.Path
