/-!
# TOML documents

A document is a table of values, some of which are tables again.  Tables come about in different
ways, and what may still be added to one depends on how it did (`Origin`).  `assign` adds a value
under a dotted key, `openTable` and `openElement` do what the headers `[key]` and `[[key]]` ask for;
each answers `none` where a key is taken.
-/

namespace MarkupTemplates.Toml

/-- How a table came about. -/
inductive TableOrigin where
  /-- By its own header, or as the document itself. -/
  | header
  /-- By the header of a table below it. -/
  | path
  /-- By a dotted key. -/
  | dotted
  /-- Between braces. -/
  | inline
deriving DecidableEq, Repr

/-- A value of a document. -/
inductive Value where
  /-- A string. -/
  | string (s : String)
  /-- An integer. -/
  | integer (n : Int)
  /-- A floating point number; which one is not kept. -/
  | float
  /-- A truth value. -/
  | boolean (b : Bool)
  /-- A date or time; which one is not kept. -/
  | time
  /-- An array. -/
  | array (items : List Value)
  /-- A table with its keys and values. -/
  | table (origin : TableOrigin) (pairs : List (String × Value))
  /-- An array of tables that have headers: the last of them and those before it. -/
  | tables (last : List (String × Value)) (earlier : List (List (String × Value)))
deriving Repr, Inhabited

/-- Keys with their values. -/
abbrev Pairs := List (String × Value)

/-- The value of a key. -/
def Pairs.get? (pairs : Pairs) (key : String) : Option Value := List.lookup key pairs

/-- The pairs with the value of a key replaced, or put at the end if there is none. -/
def Pairs.put (key : String) (value : Value) : Pairs → Pairs
  | [] => [(key, value)]
  | (k, v) :: rest => if k = key then (k, value) :: rest else (k, v) :: Pairs.put key value rest

/-- The pairs with the table at the end of a path changed by `f`, which is told how the table came
about.  Tables that are missing on the way are made.  A dotted path does not enter tables that have
a header of their own. -/
def changeAt (isDotted : Bool) (f : TableOrigin → Pairs → Option Pairs) :
    List String → TableOrigin → Pairs → Option Pairs
  | [], origin, pairs => f origin pairs
  | key :: path, _, pairs =>
    match pairs.get? key with
    | none =>
      let origin := if isDotted then .dotted else .path
      (changeAt isDotted f path origin []).map fun sub => pairs.put key (.table origin sub)
    | some (.table origin sub) =>
      if origin = .inline || (isDotted && origin = .header) then none
      else (changeAt isDotted f path origin sub).map fun sub => pairs.put key (.table origin sub)
    | some (.tables last earlier) =>
      (changeAt isDotted f path .header last).map fun last => pairs.put key (.tables last earlier)
    | some _ => none

/-- The table with a value under a new key.  A table that a dotted key leads to must have come about
by a dotted key. -/
def assignHere (isDotted : Bool) (key : String) (value : Value) (origin : TableOrigin)
    (pairs : Pairs) : Option Pairs :=
  if (origin = .dotted) != isDotted || (pairs.get? key).isSome then none
  else some (pairs ++ [(key, value)])

/-- The table with a value under a dotted key. -/
def assign (path : List String) (key : String) (value : Value) (origin : TableOrigin)
    (pairs : Pairs) : Option Pairs :=
  changeAt true (assignHere (!path.isEmpty) key value) path origin pairs

/-- The table with a table under a key that gets a header now. -/
def openHere (key : String) (pairs : Pairs) : Option Pairs :=
  match pairs.get? key with
  | none => some (pairs.put key (.table .header []))
  | some (.table .path sub) => some (pairs.put key (.table .header sub))
  | some _ => none

/-- The document after the header of a table. -/
def openTable (path : List String) (key : String) (root : Pairs) : Option Pairs :=
  changeAt false (fun _ => openHere key) path .header root

/-- The table with one table more in the array of tables under a key. -/
def openElementHere (key : String) (pairs : Pairs) : Option Pairs :=
  match pairs.get? key with
  | none => some (pairs.put key (.tables [] []))
  | some (.tables last earlier) => some (pairs.put key (.tables [] (last :: earlier)))
  | some _ => none

/-- The document after the header of an element of an array of tables. -/
def openElement (path : List String) (key : String) (root : Pairs) : Option Pairs :=
  changeAt false (fun _ => openElementHere key) path .header root

end MarkupTemplates.Toml
