import MarkupTemplates.Settings
import MarkupTemplates.Store.Basic

/-!
# Messages

A message is a text of a template that readers see, listed with the context it stands in for those
who put it into other languages.  `messagesIn` lists the messages of a tree in document order: for
each element those in its attributes, then those below it.  Line breaks are taken out of a message
and it is trimmed; what is empty then, or is an expression, is no message.
-/

namespace MarkupTemplates

open Markup (Node Attributes)

/-- A text that readers see, with its context. -/
structure Message where
  /-- Where the text stands. -/
  context : String
  /-- The text. -/
  text : String
deriving DecidableEq, Repr

/-- How messages are told from other texts. -/
structure MessageRule where
  /-- Whether the values of an attribute are messages. -/
  isTranslatable : String → Bool
  /-- Whether a text is an expression. -/
  isExpression : String → Bool
  /-- What every context begins with. -/
  contextPrefix : String

namespace MessageRule

/-- The rule that settings ask for. -/
def ofSettings (s : Settings) : Except SettingsError MessageRule := do
  let patterns ← s.patterns
  return ⟨s.isTranslatable, fun text => patterns.any (·.occursIn text), s.contextPrefix⟩

/-- The message that a text is, if it is one. -/
def normalize? (r : MessageRule) (text : String) : Option String :=
  let text := Text.trim (String.ofList (text.toList.filter (· != '\n')))
  if text.isEmpty || r.isExpression text then none else some text

/-- The message that a text in a context is, if it is one. -/
def message? (r : MessageRule) (context text : String) : Option Message :=
  (r.normalize? text).map fun text => ⟨context, text⟩

/-- The messages in the attributes of an element. -/
def messagesInAttributes (r : MessageRule) (context tag : String) (attributes : Attributes) :
    List Message :=
  attributes.toList.filterMap fun (key, value) =>
    if r.isTranslatable key then r.message? (context ++ ":" ++ tag ++ ":" ++ key) value else none

mutual

/-- The messages in a node. -/
def messagesInNode (r : MessageRule) (context : String) : Node → List Message
  | .text content => (r.message? context content).toList
  | .element tag attributes children =>
    r.messagesInAttributes context tag attributes ++ messagesInNodes r context children

/-- The messages in a list of nodes. -/
def messagesInNodes (r : MessageRule) (context : String) : List Node → List Message
  | [] => []
  | n :: ns => messagesInNode r context n ++ messagesInNodes r context ns

end

/-- The messages in nodes that belong to the template `id`. -/
def messagesIn (r : MessageRule) (id : String) (nodes : List Node) : List Message :=
  messagesInNodes r (r.contextPrefix ++ ":" ++ id) nodes

/-- The messages of a template: those of its content or of the payloads of its directives. -/
def messagesOf (r : MessageRule) (t : Template) : List Message :=
  t.parts.flatMap (r.messagesIn t.id)

end MessageRule

/-- The messages of all templates of a store, in the order of registration. -/
def Store.messages (s : Store) (r : MessageRule) : List Message := s.templates.flatMap r.messagesOf

end MarkupTemplates
