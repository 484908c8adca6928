import MarkupTemplates.Template.Basic

/-!
# Why a template cannot be compiled

`ResolutionError` lists the causes, `ResolutionError.message` their wording.
-/

namespace MarkupTemplates

/-- Why the payload of a directive does not fit its action. -/
inductive PayloadFault where
  /-- The action uses no payload and there is one. -/
  | unused
  /-- The action needs a payload and there is none. -/
  | missing
  /-- The payload of an attribute setting holds something other than empty attribute elements. -/
  | notAttributes
  /-- The payload of an attribute setting names no attribute. -/
  | noAttributes
deriving DecidableEq, Repr

/-- The fault in words. -/
def PayloadFault.message : PayloadFault → String
  | .unused => "remove takes no payload"
  | .missing => "payload must not be empty"
  | .notAttributes => "payload may only contain empty <attribute/> elements"
  | .noAttributes => "no attributes to set"

/-- Why a template cannot be compiled. -/
inductive ResolutionError where
  /-- No template has the id. -/
  | notFound (id : String)
  /-- A template depends on an id that has no definition. -/
  | missingTarget (template target : String)
  /-- Templates depend on each other in a circle. -/
  | cycle (chain : List String)
  /-- The path of a directive addresses several elements, and the directive asks for one. -/
  | ambiguousTarget (template path : String) (count : Nat)
  /-- The path of a directive addresses no element. -/
  | targetNotFound (template path : String)
  /-- The payload of a directive does not fit its action. -/
  | invalidPayload (template : String) (action : Action) (fault : PayloadFault)
deriving DecidableEq, Repr

/-- The error in words. -/
def ResolutionError.message : ResolutionError → String
  | .notFound id => "template not found: " ++ id
  | .missingTarget template target =>
    "template '" ++ template ++ "' references unknown template '" ++ target ++ "'"
  | .cycle chain => "circular template extension: " ++ " -> ".intercalate chain
  | .ambiguousTarget template path count =>
    "path '" ++ path ++ "' in template '" ++ template ++ "' matches " ++ toString count ++
      " nodes, expected exactly one"
  | .targetNotFound template path =>
    "path '" ++ path ++ "' in template '" ++ template ++ "' matches no node"
  | .invalidPayload template action fault =>
    "invalid " ++ action.name ++ " directive in template '" ++ template ++ "': " ++ fault.message

end MarkupTemplates
