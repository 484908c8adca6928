import MarkupTemplates.Store.Basic
import MarkupTemplates.Template.Declaration

/-!
# Loading a source into a store

`Store.load` reads the templates of a source and registers them, all or none.
-/

namespace MarkupTemplates

/-- Why a source cannot be loaded. -/
inductive LoadError where
  /-- The source is faulty. -/
  | source (errors : List SourceError)
  /-- Its templates cannot be registered. -/
  | store (error : StoreError)
deriving DecidableEq, Repr

/-- The error in words. -/
def LoadError.message : LoadError → String
  | .source errors => "parse errors: " ++ "; ".intercalate (errors.map (·.text))
  | .store error => "registration error: " ++ error.message

/-- The store with the templates of a source, and the receipts for them. -/
def Store.load (s : Store) (minify : Bool) (name source : String) :
    Except LoadError (Store × Noted (List Handle)) :=
  match readTemplates minify name source with
  | .error errors => .error (.source errors)
  | .ok templates =>
    match s.registerAll templates with
    | .error error => .error (.store error)
    | .ok (after, handles) =>
      .ok (after, ⟨handles.value, handles.notices ++ [.loaded handles.value.length name]⟩)

/-- The name of sources that have none of their own. -/
def memorySource : String := "<memory>"

end MarkupTemplates
