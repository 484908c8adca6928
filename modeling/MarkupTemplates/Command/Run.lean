import MarkupTemplates.Command.Arguments
import MarkupTemplates.Report.Basic
import MarkupTemplates.Session.Basic

/-!
# Running a command

`run` follows a command line: it reads the settings file, loads the source files in order, and does
what is asked for.  The first thing that fails ends it.  How files are read is left to the function
it is given.
-/

namespace MarkupTemplates.Command

/-- Why a file cannot be read. -/
inductive FileFault where
  /-- There is no such file. -/
  | missing
  /-- The path goes through a file that is no directory. -/
  | notDirectory
  /-- The file is a directory. -/
  | directory
  /-- The path has a name that is too long. -/
  | tooLong
  /-- The file may not be read. -/
  | denied
  /-- Reading failed. -/
  | broken
  /-- The bytes of the file are no text. -/
  | notText
deriving DecidableEq, Repr

/-- The fault in words. -/
def FileFault.message : FileFault → String
  | .missing => "No such file or directory (os error 2)"
  | .notDirectory => "Not a directory (os error 20)"
  | .directory => "Is a directory (os error 21)"
  | .tooLong => "File name too long (os error 36)"
  | .denied => "Permission denied (os error 13)"
  | .broken => "Input/output error (os error 5)"
  | .notText => "stream did not contain valid UTF-8"

/-- What a command leaves behind: its status and what it writes. -/
structure Output where
  /-- The status; 0 means success. -/
  status : Nat
  /-- What is written as the result. -/
  out : String := ""
  /-- What is written about failures. -/
  err : String := ""
deriving DecidableEq, Repr

/-- The lines of a text, each with its break. -/
def unlines (lines : List String) : String := String.join (lines.map (· ++ "\n"))

/-- The output of a command that fails. -/
def failure (line : String) : Output := { status := 1, err := unlines [line] }

/-- What is written when help is asked for. -/
def helpText : String := unlines
  ["Compose markup templates through extension and patching", "",
   "Usage: template-graft [OPTIONS] <COMMAND>", "", "Commands:",
   "  compile <FILES>... --id <ID>  Print the compiled markup of one template",
   "  check <FILES>...              Compile every template and report errors",
   "  catalog <FILES>...            List translatable strings", "", "Options:",
   "  -c, --config <FILE>  Engine configuration file (TOML format)",
   "  -h, --help           Print help"]

variable {m : Type → Type} [Monad m]

/-- Reads the settings of an invocation. -/
def readSettings (readFile : String → m (Except FileFault String)) (config : Option String) :
    ExceptT Output m Settings := do
  match config with
  | none => return {}
  | some path =>
    let fail (reason : String) : ExceptT Output m Settings :=
      throw (failure ("Error loading config '" ++ path ++ "': " ++ reason))
    match ← readFile path with
    | .error fault => fail ("Failed to read config file: " ++ fault.message)
    | .ok text =>
      match Settings.read text with
      | .ok settings => return settings
      | .error e => fail e.message

/-- Loads files into a store, one after the other. -/
def loadFiles (readFile : String → m (Except FileFault String)) (settings : Settings) (s : Store) :
    List String → ExceptT Output m Store
  | [] => return s
  | path :: paths => do
    match ← readFile path with
    | .error fault => throw (failure ("Error reading file '" ++ path ++ "': " ++ fault.message))
    | .ok source =>
      match s.load settings.minify path source with
      | .error e => throw (failure (e.report path source))
      | .ok (s, _) => loadFiles readFile settings s paths

/-- The line that says whether an id can be compiled. -/
def checkLine (result : String × Outcome) : String :=
  match result.2 with
  | .ok compiled =>
    "ok    " ++ result.1 ++ " (" ++ toString compiled.contributors.length ++ " source(s))"
  | .error e => "error " ++ result.1 ++ ": " ++ e.message

/-- What a task on a store comes to. -/
def Task.run (settings : Settings) (s : Store) : Task → Output
  | .compile id =>
    match (({ store := s } : Memo).compile s id).1.value with
    | .ok compiled => { status := 0, out := unlines [Markup.markup compiled.tree] }
    | .error e => failure ("Error: " ++ e.message)
  | .check =>
    let outcomes := (({ store := s } : Memo).compileAll s).1.value
    let failures := (outcomes.filter fun r => r.2 matches .error _).length
    let out := unlines (outcomes.map checkLine)
    if failures = 0 then { status := 0, out }
    else
      { status := 1, out, err := unlines [toString failures ++ " template(s) failed to compile"] }
  | .catalog =>
    match MessageRule.ofSettings settings with
    | .ok rule =>
      { status := 0, out := unlines ((s.messages rule).map fun x => x.context ++ "\t" ++ x.text) }
    | .error e => failure ("Error: " ++ e.message)

/-- What an invocation comes to. -/
def Invocation.run (readFile : String → m (Except FileFault String)) (i : Invocation) :
    m Output := do
  let result ← ExceptT.run do
    let settings ← readSettings readFile i.config
    let s ← loadFiles readFile settings .empty i.files
    return i.task.run settings s
  match result with
  | .ok output => return output
  | .error output => return output

/-- What a command line comes to.  What there is to say about wrong arguments is left out. -/
def run (readFile : String → m (Except FileFault String)) (args : List String) : m Output :=
  match Invocation.read args with
  | .ok i => i.run readFile
  | .error .help => return { status := 0, out := helpText }
  | .error .misuse => return { status := 2 }

end MarkupTemplates.Command
