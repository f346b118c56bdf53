import SqlCatalog.Dialect
/-!
# Command lines

What a command line asks for. The tokens behind the command are first read as
words: options with their values, requests for help, and plain words. Each
command then takes its words from left to right and stops at the first one that
is wrong; what is missing is found at the end.
-/
namespace SqlCatalog.Command

/-- What help is about. -/
inductive Topic
  | root
  | compile
  | check
  | drivers
  | run
deriving DecidableEq

/-- Where `compile` takes its dialect from. -/
inductive DialectSource
  /-- What the catalog file declares. -/
  | catalog
  | driver (name : String)
  | dialect (d : Dialect)
deriving DecidableEq

structure CompileRequest where
  catalog : String
  source : DialectSource
  /-- The statements to print; all of them if there are none here. -/
  statements : List String
deriving DecidableEq

structure RunRequest where
  catalog : String
  database : String
  schema : Option String
  statement : String
  params : List (String × String)
deriving DecidableEq

/-- A command line that makes sense. -/
inductive Invocation
  | help (t : Topic)
  | compile (r : CompileRequest)
  | check (catalog : String)
  | drivers
  | run (r : RunRequest)
deriving DecidableEq

/-- What is wrong with a command line. -/
inductive UsageError
  | unknownCommand (token : String)
  | missingValue (flag : String)
  | exclusive
  | unknownDialect (lower : String)
  | unknownArgument (token : String)
  | noCatalog
  | noDatabase
  | noStatement
  | notAnAssignment (token : String)
  | emptyName (token : String)
deriving DecidableEq

def UsageError.message : UsageError → String
  | unknownCommand token => s!"unknown command: {token}"
  | missingValue flag => s!"{flag} requires a value"
  | exclusive => "--driver and --style are mutually exclusive"
  | unknownDialect lower => Dialect.unknownName lower
  | unknownArgument token => s!"unknown argument: {token}"
  | noCatalog => "--catalog is required"
  | noDatabase => "--database is required"
  | noStatement => "missing STATEMENT"
  | notAnAssignment token => s!"expected key=value, got: {token}"
  | emptyName token => s!"empty parameter name in: {token}"

/-! ## Words -/

/-- A token of a command line, with its value if it is an option. -/
inductive Word
  | help
  | option (flag value : String)
  /-- An option at the end, without its value. -/
  | dangling (flag : String)
  /-- Starts like an option but is none. -/
  | unknown (token : String)
  | plain (token : String)
deriving DecidableEq

/-- What stands behind the first `=`, and before it. -/
def splitAssignment (token : String) : Option (String × String) :=
  match token.toList.dropWhile (· != '=') with
  | [] => none
  | _ :: value => some (String.ofList (token.toList.takeWhile (· != '=')), String.ofList value)

/-- The value in `--flag=value`, for one of these flags. -/
def inlineValue? (flags : List String) (token : String) : Option (String × String) :=
  (splitAssignment token).filter (fun r => flags.contains r.1)

/-- Read tokens as words. An option takes the token behind it as its value,
whatever that is. -/
def words (flags : List String) : List String → List Word
  | [] => []
  | [token] => [single token]
  | token :: value :: rest =>
    if flags.contains token then .option token value :: words flags rest
    else single token :: words flags (value :: rest)
where
  /-- A token that does not reach for the next one. -/
  single (token : String) : Word :=
    if token = "-h" ∨ token = "--help" then .help
    else if flags.contains token then .dangling token
    else match inlineValue? flags token with
      | some (flag, value) => .option flag value
      | none => if "-".toList.isPrefixOf token.toList then .unknown token else .plain token

/-! ## Commands -/

/-- What `compile` was told so far. -/
structure CompileDraft where
  catalog : Option String
  source : DialectSource
  /-- Latest first. -/
  statements : List String

/-- Take in an option of `compile`. -/
def CompileDraft.set (d : CompileDraft) (flag value : String) : Except UsageError CompileDraft :=
  if flag = "--catalog" then .ok { d with catalog := some value }
  else if flag = "--driver" then
    match d.source with
    | .dialect _ => .error .exclusive
    | _ => .ok { d with source := .driver value }
  else
    match d.source with
    | .driver _ => .error .exclusive
    | _ =>
      match Dialect.parse value with
      | .ok dialect => .ok { d with source := .dialect dialect }
      | .error lower => .error (.unknownDialect lower)

def parseCompile (d : CompileDraft) : List Word → Except UsageError Invocation
  | [] =>
    match d.catalog with
    | some catalog => .ok (.compile ⟨catalog, d.source, d.statements.reverse⟩)
    | none => .error .noCatalog
  | .help :: _ => .ok (.help .compile)
  | .dangling flag :: _ => .error (.missingValue flag)
  | .unknown token :: _ => .error (.unknownArgument token)
  | .plain token :: rest => parseCompile { d with statements := token :: d.statements } rest
  | .option flag value :: rest =>
    match d.set flag value with
    | .ok d => parseCompile d rest
    | .error e => .error e

def parseCheck (catalog : Option String) : List Word → Except UsageError Invocation
  | [] =>
    match catalog with
    | some catalog => .ok (.check catalog)
    | none => .error .noCatalog
  | .help :: _ => .ok (.help .check)
  | .dangling flag :: _ => .error (.missingValue flag)
  | .unknown token :: _ | .plain token :: _ => .error (.unknownArgument token)
  | .option _ value :: rest => parseCheck (some value) rest

/-- Only the first token counts. -/
def parseDrivers : List String → Except UsageError Invocation
  | [] => .ok .drivers
  | token :: _ =>
    if token = "-h" ∨ token = "--help" then .ok (.help .drivers)
    else .error (.unknownArgument token)

/-- What `run` was told so far. -/
structure RunDraft where
  catalog : Option String
  database : Option String
  schema : Option String
  statement : Option String
  /-- Latest first. -/
  params : List (String × String)

/-- Take in an option of `run`. -/
def RunDraft.set (d : RunDraft) (flag value : String) : RunDraft :=
  if flag = "--catalog" then { d with catalog := some value }
  else if flag = "--database" then { d with database := some value }
  else { d with schema := some value }

/-- Take in a plain word: first the statement, then parameters. -/
def RunDraft.add (d : RunDraft) (token : String) : Except UsageError RunDraft :=
  match d.statement with
  | none => .ok { d with statement := some token }
  | some _ =>
    match splitAssignment token with
    | none => .error (.notAnAssignment token)
    | some (name, value) =>
      if name = "" then .error (.emptyName token)
      else .ok { d with params := (name, value) :: d.params }

/-- What `run` was told, if nothing is missing. -/
def RunDraft.finish (d : RunDraft) : Except UsageError Invocation :=
  match d.database, d.statement, d.catalog with
  | none, _, _ => .error .noDatabase
  | _, none, _ => .error .noStatement
  | _, _, none => .error .noCatalog
  | some database, some statement, some catalog =>
    .ok (.run ⟨catalog, database, d.schema, statement, d.params.reverse⟩)

def parseRun (d : RunDraft) : List Word → Except UsageError Invocation
  | [] => d.finish
  | .help :: _ => .ok (.help .run)
  | .dangling flag :: _ => .error (.missingValue flag)
  | .unknown token :: _ => .error (.unknownArgument token)
  | .plain token :: rest =>
    match d.add token with
    | .ok d => parseRun d rest
    | .error e => .error e
  | .option flag value :: rest => parseRun (d.set flag value) rest

def compileFlags : List String := ["--catalog", "--driver", "--style"]

def checkFlags : List String := ["--catalog"]

def runFlags : List String := ["--catalog", "--database", "--schema"]

/-- Read a command line, without the name of the program. -/
def parse : List String → Except UsageError Invocation
  | [] => .ok (.help .root)
  | command :: rest =>
    if command = "-h" ∨ command = "--help" ∨ command = "help" then .ok (.help .root)
    else if command = "compile" then parseCompile ⟨none, .catalog, []⟩ (words compileFlags rest)
    else if command = "check" then parseCheck none (words checkFlags rest)
    else if command = "drivers" then parseDrivers rest
    else if command = "run" then parseRun ⟨none, none, none, none, []⟩ (words runFlags rest)
    else .error (.unknownCommand command)

end SqlCatalog.Command
