import SqlCatalog.Client.Basic
import SqlCatalog.Command.Help
import SqlCatalog.Command.Host
import SqlCatalog.Command.Params
import SqlCatalog.Command.Render
/-!
# Running commands

Each command reads its catalog first. `run` then opens the database, applies the
schema, compiles the statement and runs it, and stops at the first of these that
fails; what was done to the database up to there stays.
-/
namespace SqlCatalog.Command

/-- The catalog file at a path. -/
def readDeclaration (host : Host) (path : String) : Except Failure Declaration :=
  Declaration.ofFile path ((host.readText path).mapError PathError.message)

def runCompile (r : CompileRequest) (host : Host) : Outcome :=
  match readDeclaration host r.catalog with
  | .error e => .fail e.report
  | .ok declaration =>
    match render declaration.catalog (r.source.resolve declaration) r.statements with
    | .error (id, e) => .fail s!"failed to compile {id}: {e.message}"
    | .ok text => .ok text

def runCheck (path : String) (host : Host) : Outcome :=
  match readDeclaration host path with
  | .error e => .fail e.report
  | .ok declaration =>
    match check declaration.catalog with
    | .error (id, d, e) => .fail s!"{id} ({d.name}): {e.message}"
    | .ok () => .ok s!"{path}: {declaration.catalog.size} statements ok\n"

/-! ## Statements against a database -/

/-- A database that no file holds. -/
def isPrivate (path : String) : Bool := path == ":memory:" || path == ""

/-- Open the database at a path. No change was made through it yet, and whether
its file holds a database was not looked at. -/
def openDatabase (host : Host) (path : String) : Except Failure Embedded.Database :=
  if isPrivate path then .ok .empty
  else match host.openDatabase path with
    | some d => .ok { d with changes := 0 }
    | none => .error (.connection
        s!"failed to open {path}: unable to open database file: {path}")

/-- The script at a path, if one is asked for. -/
def readSchema (host : Host) : Option String → Except String String
  | none => .ok ""
  | some path => (host.readText path).mapError fun e =>
      s!"failed to read schema {path}: {e.message}"

/-- Rows as they are printed, under a heading if there are any. -/
def table : List Embedded.Row → String
  | [] => ""
  | row :: rest =>
    String.join ((row.heading :: row.line :: rest.map Embedded.Row.line).map (· ++ "\n"))

/-- Run a statement and print its rows, or the number of rows that it affects. -/
def runStatement (client : Client Embedded.Database Embedded.Row) (r : RunRequest)
    (d : Embedded.Database) : Except Failure String × Embedded.Database :=
  match client.prepare r.statement (client.start d) with
  | (.error e, session) => (.error e, session.state)
  | (.ok p, session) =>
    let args := flatArguments r.params
    if returnsRows p.compiled.sql then
      let (rows, _, session) := client.fetchAll 0 r.statement args session
      (rows.map table, session.state)
    else
      let (affected, _, session) := client.execute 0 r.statement args session
      (affected.map (fun n => s!"{n} row(s) affected\n"), session.state)

/-- Apply the schema and run the statement on an open database. -/
def runOpened (r : RunRequest) (host : Host) (catalog : Catalog) (d : Embedded.Database) :
    Outcome × Embedded.Database :=
  match readSchema host r.schema with
  | .error reason => (.fail reason, d)
  | .ok script =>
    match d.applyScript script with
    | (some e, d) =>
      let path := r.schema.getD ""
      (.fail s!"failed to apply schema {path}: {e.report}", d)
    | (none, d) =>
      match runStatement ⟨Embedded.Database.store, catalog, Settings.default⟩ r d with
      | (.error e, d) => (.fail e.report, d)
      | (.ok text, d) => (.ok text, d)

def runRun (r : RunRequest) (host : Host) : Outcome :=
  match readDeclaration host r.catalog with
  | .error e => .fail e.report
  | .ok declaration =>
    match openDatabase host r.database with
    | .error e => .fail e.report
    | .ok d =>
      let (outcome, d) := runOpened r host declaration.catalog d
      if isPrivate r.database then outcome else outcome.saving r.database d

/-- Run a command line, without the name of the program. -/
def execute (args : List String) (host : Host) : Outcome :=
  match parse args with
  | .error e => .fail e.message
  | .ok (.help topic) => .ok topic.text
  | .ok (.compile r) => runCompile r host
  | .ok (.check path) => runCheck path host
  | .ok .drivers => .ok driverTable
  | .ok (.run r) => runRun r host

end SqlCatalog.Command
