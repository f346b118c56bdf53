import SqlCatalog.Command.Run
import SqlCatalog.Embedded.Archive
/-!
# The command line program

Reads the files that a command line names, runs the command and prints what it
did. A failure goes to standard error with exit code 1.
-/
namespace SqlCatalog.Program

open Command

/-- Why a file could not be read. The code of an error may come negated. -/
def pathError : IO.Error → PathError
  | .noFileOrDirectory .. => .missing
  | .inappropriateType _ code _ =>
    if code = 21 ∨ 0 - code = 21 then .isDirectory else .notADirectory
  | e => .other (toString e)

/-- The text of a file. -/
def readText (path : String) : IO (Except PathError String) := do
  match ← (IO.FS.readBinFile path).toBaseIO with
  | .error e => return .error (pathError e)
  | .ok contents =>
    match String.fromUTF8? contents with
    | some text => return .ok text
    | none => return .error .notText

/-- The database in a file. A file that is missing is made, to see whether it can
be; one of a single byte counts as empty. -/
def readDatabase (path : String) : IO (Option Embedded.Database) := do
  match ← readText path with
  | .ok text =>
    if text.utf8ByteSize ≤ 1 then return some .empty
    else return some ((Embedded.Archive.read? text).getD .foreign)
  | .error .notText => return some .foreign
  | .error .missing =>
    match ← (IO.FS.writeFile path "").toBaseIO with
    | .ok () => return some .empty
    | .error _ => return none
  | .error _ => return none

/-- The paths of the texts and of the database that a command line names. -/
def paths (args : List String) : List String × Option String :=
  match parse args with
  | .ok (.compile r) => ([r.catalog], none)
  | .ok (.check path) => ([path], none)
  | .ok (.run r) =>
    (r.catalog :: r.schema.toList, if isPrivate r.database then none else some r.database)
  | _ => ([], none)

/-- What a command line will find. A database is opened only behind a catalog
that can be read. -/
def host (args : List String) : IO Host := do
  let (texts, database) := paths args
  let found ← texts.mapM (fun path => do return (path, ← readText path))
  let readable := found.head?.map (fun e =>
    Declaration.ofFile e.1 (e.2.mapError PathError.message))
  let opened ← match database, readable with
    | some path, some (.ok _) => readDatabase path
    | _, _ => pure none
  return {
    readText := fun path => (found.lookup path).getD (.error .missing)
    openDatabase := fun _ => opened }

def run (args : List String) : IO UInt32 := do
  let outcome := execute args (← host args)
  if let some (path, d) := outcome.saved then
    if d.hasTable then IO.FS.writeFile path (Embedded.Archive.write d)
  IO.print outcome.stdout
  match outcome.error with
  | none => return 0
  | some reason =>
    IO.eprintln reason
    return 1

end SqlCatalog.Program

/-- The program. -/
def main (args : List String) : IO UInt32 := SqlCatalog.Program.run args
