/-!
# Command line arguments

The arguments name a command, the source files it works on, and options.  The settings file may be
named before or after the command; the one after it counts.  An option's value stands in the next
argument, or in the same one: after `=` for a long option, directly or after `=` for a short one.
After `--` every argument is a file.
-/

namespace MarkupTemplates.Command

/-- What the command line asks for. -/
inductive Task where
  /-- The markup of one template. -/
  | compile (id : String)
  /-- Whether each template can be compiled. -/
  | check
  /-- The messages of all templates. -/
  | catalog
deriving DecidableEq, Repr

/-- A command line that can be followed. -/
structure Invocation where
  /-- The settings file. -/
  config : Option String
  /-- What is asked for. -/
  task : Task
  /-- The source files, in the order in which they are loaded. -/
  files : List String
deriving DecidableEq, Repr

/-- Why there is nothing to follow. -/
inductive Stop where
  /-- Help is asked for. -/
  | help
  /-- The arguments are wrong. -/
  | misuse
deriving DecidableEq, Repr

/-- An option with a value. -/
inductive Key where
  /-- The settings file. -/
  | config
  /-- The template. -/
  | id
deriving DecidableEq, Repr

/-- What one argument is. -/
inductive Argument where
  /-- The mark that all arguments after it are files. -/
  | escape
  /-- A request for help. -/
  | help
  /-- An option, with its value if it is in the same argument. -/
  | option (key : Key) (value : Option String)
  /-- Something other than an option. -/
  | plain (text : String)
  /-- An option that does not exist. -/
  | unknown
deriving DecidableEq, Repr

namespace Argument

/-- The option with a long name. -/
def long (name : List Char) (value : Option String) : Argument :=
  if name = "config".toList then .option .config value
  else if name = "id".toList then .option .id value
  else if name = "help".toList ∧ value.isNone then .help
  else .unknown

/-- The option with a short name, given what stands after it in the argument. -/
def short (name : Char) (rest : List Char) : Argument :=
  let value := match rest with
    | [] => none
    | '=' :: value => some (String.ofList value)
    | value => some (String.ofList value)
  if name = 'c' then .option .config value
  else if name = 'i' then .option .id value
  else if name = 'h' then .help
  else .unknown

/-- What an argument is. -/
def read (s : String) : Argument :=
  match s.toList with
  | ['-', '-'] => .escape
  | '-' :: '-' :: cs =>
    let name := cs.takeWhile (· != '=')
    match cs.dropWhile (· != '=') with
    | [] => long name none
    | _ :: value => long name (some (String.ofList value))
  | '-' :: c :: cs => short c cs
  | _ => .plain s

end Argument

/-- The values of options; each may be given once, and only a template id may be empty. -/
structure Options where
  /-- The settings file. -/
  config : Option String := none
  /-- The template. -/
  id : Option String := none
deriving DecidableEq, Repr

/-- The options with one more; `none` if it is given twice or must not be empty. -/
def Options.set (o : Options) (value : String) : Key → Option Options
  | .config =>
    if o.config.isSome || value.isEmpty then none else some { o with config := some value }
  | .id => if o.id.isSome then none else some { o with id := some value }

/-- Reads the value of an option, which is the next argument if it is not in the same one, and goes
on with `next` after it. -/
def takeValue {α : Type} (o : Options) (key : Key) (value : Option String) (rest : List String)
    (next : Options → List String → Except Stop α) : Except Stop α :=
  match value, rest with
  | some value, _ =>
    match o.set value key with
    | some o => next o rest
    | none => .error .misuse
  | none, s :: rest =>
    match Argument.read s, o.set s key with
    | .plain _, some o => next o rest
    | _, _ => .error .misuse
  | none, [] => .error .misuse

/-- Reads the arguments of a command: its options and its files.  Only a command on one template
takes its id. -/
def readOperands (takesId : Bool) :
    Nat → Options → List String → Except Stop (Options × List String)
  | 0, o, _ => .ok (o, [])
  | _, o, [] => .ok (o, [])
  | n + 1, o, s :: rest =>
    match Argument.read s with
    | .escape => if rest.any String.isEmpty then .error .misuse else .ok (o, rest)
    | .help => .error .help
    | .option .id value =>
      if takesId then takeValue o .id value rest (readOperands takesId n) else .error .misuse
    | .option .config value => takeValue o .config value rest (readOperands takesId n)
    | .plain text =>
      if text.isEmpty then .error .misuse
      else (readOperands takesId n o rest).map fun (o, files) => (o, text :: files)
    | .unknown => .error .misuse

/-- The invocation of a command, given its name and arguments and the settings file named before. -/
def readCommand (config : Option String) (name : String) (rest : List String) :
    Except Stop Invocation := do
  let (o, files) ← readOperands (name = "compile") rest.length {} rest
  if files.isEmpty then throw .misuse
  let config := o.config.or config
  match name, o.id with
  | "compile", some id => return ⟨config, .compile id, files⟩
  | "check", _ => return ⟨config, .check, files⟩
  | "catalog", _ => return ⟨config, .catalog, files⟩
  | _, _ => throw .misuse

/-- The names of the commands. -/
def commandNames : List String := ["compile", "check", "catalog"]

/-- What a request for help comes to that is made as a command: it may name a command. -/
def readHelp (rest : List String) : Stop :=
  match rest with
  | [] => .help
  | [name] => if commandNames.contains name || name = "help" then .help else .misuse
  | _ => .misuse

/-- Reads what stands before the command, and the command. -/
def readArguments : Nat → Options → List String → Except Stop Invocation
  | 0, _, _ => .error .misuse
  | _, _, [] => .error .misuse
  | n + 1, o, s :: rest =>
    match Argument.read s with
    | .help => .error .help
    | .option .config value => takeValue o .config value rest (readArguments n)
    | .plain name =>
      if commandNames.contains name then readCommand o.config name rest
      else .error (if name = "help" then readHelp rest else .misuse)
    | _ => .error .misuse

/-- The invocation that arguments write down. -/
def Invocation.read (args : List String) : Except Stop Invocation :=
  readArguments args.length {} args

end MarkupTemplates.Command
