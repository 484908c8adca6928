import MarkupTemplates.Pattern.Reading
import MarkupTemplates.Toml.Reading

/-!
# Settings

What can be chosen about loading templates and listing their messages, and how it is read from a
TOML document.  Keys of other names are passed over; a key that is left out keeps its usual value.
-/

namespace MarkupTemplates

/-- Why there are no settings. -/
inductive SettingsError where
  /-- The text is no TOML document, or a key has a value of the wrong kind. -/
  | document
  /-- An expression pattern is no pattern. -/
  | pattern
deriving DecidableEq, Repr

/-- The error in words. -/
def SettingsError.message : SettingsError → String
  | .document => "Failed to parse config TOML: the keys or their values cannot be read"
  | .pattern => "invalid expression pattern: a pattern cannot be read"

/-- The settings of a session. -/
structure Settings where
  /-- Whether texts are trimmed when a source is loaded, and dropped if nothing is left. -/
  minify : Bool := true
  /-- The attributes whose values are messages. -/
  translatable : List String := ["label", "hx-confirm"]
  /-- The patterns of texts that are expressions and no messages. -/
  expressions : List String := ["\\\x7b\\\x7b.*\\\x7d\\\x7d", "\\\x7b%.*%\\\x7d"]
  /-- What the context of every message begins with. -/
  contextPrefix : String := "template"
deriving DecidableEq, Repr, Inhabited

namespace Settings

/-- Whether the values of an attribute are messages. -/
def isTranslatable (s : Settings) (key : String) : Bool := s.translatable.contains key

/-- The patterns of expressions. -/
def patterns (s : Settings) : Except SettingsError (List Pattern) :=
  match Pattern.readAll? s.expressions with
  | some ps => .ok ps
  | none => .error .pattern

/-- The value of a key that must be of a kind, or the usual one if there is no such key. -/
def field {α : Type} (pairs : Toml.Pairs) (key : String) (kind : Toml.Value → Option α)
    (usual : α) : Option α :=
  match pairs.get? key with
  | some value => kind value
  | none => some usual

/-- The truth value that a value is. -/
def boolean? : Toml.Value → Option Bool
  | .boolean b => some b
  | _ => none

/-- The string that a value is. -/
def string? : Toml.Value → Option String
  | .string s => some s
  | _ => none

/-- The list of strings that a value is. -/
def strings? : Toml.Value → Option (List String)
  | .array items => items.mapM string?
  | _ => none

/-- The settings in the pairs of a document. -/
def ofPairs? (pairs : Toml.Pairs) : Option Settings := do
  let usual : Settings := {}
  return {
    minify := ← field pairs "minify_text" boolean? usual.minify
    translatable := ← field pairs "translatable_attributes" strings? usual.translatable
    expressions := ← field pairs "expression_patterns" strings? usual.expressions
    contextPrefix := ← field pairs "context_prefix" string? usual.contextPrefix }

/-- Reads settings from a TOML document. -/
def read (source : String) : Except SettingsError Settings := do
  match (Toml.read? source).bind ofPairs? with
  | none => throw .document
  | some s =>
    let _ ← s.patterns
    return s

end Settings

end MarkupTemplates
