import MarkupTemplates.Template.ResolutionError

/-!
# Notices

A `Notice` reports an event while templates are stored and compiled.  It has a level and a text.
-/

namespace MarkupTemplates

/-- How much a notice matters. -/
inductive Level where
  /-- Of interest to those who look for a mistake. -/
  | debug
  /-- Of general interest. -/
  | info
  /-- Likely a mistake. -/
  | warning
deriving DecidableEq, Repr

/-- An event while templates are stored and compiled. -/
inductive Notice where
  /-- A layer has the priority of an earlier layer of the same template. -/
  | sharedPriority (id : String) (priority : Int)
  /-- A template is stored. -/
  | registered (id : String) (mode? : Option Mode)
  /-- The templates of a source are stored. -/
  | loaded (count : Nat) (source : String)
  /-- Outcomes are dropped since there are new templates. -/
  | outdated (served current : Nat)
  /-- Outcomes are dropped on demand. -/
  | invalidated (generation : Nat)
  /-- The compilation of a template begins. -/
  | resolving (id : String)
  /-- A template is compiled. -/
  | compiled (id : String) (sources : Nat)
  /-- A template cannot be compiled. -/
  | failed (id : String) (error : ResolutionError)
  /-- There is no order in which each template comes after those it depends on. -/
  | unordered (error : ResolutionError)
deriving DecidableEq, Repr

namespace Notice

/-- How much the notice matters. -/
def level : Notice → Level
  | .sharedPriority _ _ => .warning
  | .registered _ _ => .debug
  | .loaded _ _ => .info
  | .outdated _ _ => .debug
  | .invalidated _ => .info
  | .resolving _ => .debug
  | .compiled _ _ => .debug
  | .failed _ _ => .warning
  | .unordered _ => .warning

/-- The notice in words. -/
def text : Notice → String
  | .sharedPriority id priority =>
    "Layers on '" ++ id ++ "' share priority " ++ toString priority ++
      "; they apply in registration order"
  | .registered id mode? => "Registered template '" ++ id ++ "' (" ++ Mode.label mode? ++ ")"
  | .loaded count source => "Loaded " ++ toString count ++ " template(s) from " ++ source
  | .outdated served current =>
    "Registry changed (generation " ++ toString served ++ " -> " ++ toString current ++
      "), dropping compiled templates"
  | .invalidated generation =>
    "Invalidating compiled templates (generation " ++ toString generation ++ ")"
  | .resolving id => "Resolving template '" ++ id ++ "'"
  | .compiled id sources =>
    "Compiled template '" ++ id ++ "' from " ++ toString sources ++ " source(s)"
  | .failed id error => "Template '" ++ id ++ "' failed to compile: " ++ error.message
  | .unordered error => error.message ++ "; compiling in registration order"

end Notice

/-- An answer with the notices given on the way to it. -/
structure Noted (α : Type) where
  /-- The answer. -/
  value : α
  /-- The notices, in order. -/
  notices : List Notice := []

end MarkupTemplates
