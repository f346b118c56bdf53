import SqlCatalog.Embedded.Affinity
import SqlCatalog.Embedded.Engine
import SqlCatalog.Embedded.Script
import SqlCatalog.Store.Basic
/-!
# The embedded database

The state of the database and what each statement does to it. A statement is
prepared before its parameters are looked at. A new row gets the id after the
largest one; a statement that changes rows sets the count of changes, and one
that only reads leaves it.
-/
namespace SqlCatalog.Embedded

/-- A row of the table. -/
structure Entry where
  id : Int
  k : Cell
  v : Cell
deriving DecidableEq

/-- What a database was found to hold. -/
inductive Contents
  /-- No table yet. -/
  | blank
  /-- The rows of its table, by increasing id. -/
  | table (entries : List Entry)
  /-- Something else than a database. -/
  | foreign
deriving DecidableEq, Inhabited

/-- A database, and the number of rows that the last change affected. -/
structure Database where
  contents : Contents
  changes : Nat
deriving DecidableEq, Inhabited

namespace Database

/-- A database without a table. -/
def empty : Database := ⟨.blank, 0⟩

/-- A database with an empty table. -/
def created : Database := ⟨.table [], 0⟩

/-- What stands for a database in a file of something else. -/
def foreign : Database := ⟨.foreign, 0⟩

/-- Was there a table to keep rows in? -/
def hasTable (d : Database) : Bool :=
  match d.contents with
  | .table _ => true
  | _ => false

/-- The id after the largest one. -/
def nextId (entries : List Entry) : Int := (entries.foldl (fun n e => max n e.id) 0) + 1

/-- Does a parameter stand for this id? Null never does. -/
def matchesId (param : Cell) (id : Int) : Bool := param.id? == some id

/-- The answer to a statement over the table: rows, and the entries with the
number of changed ones if the statement writes. -/
structure Effect where
  rows : List (List Cell)
  write : Option (List Entry × Nat)

/-- A statement over the entries of the table, with what stands for its
placeholders. -/
def effect (s : Statement) (params : List Cell) (entries : List Entry) : Effect :=
  match s, params with
  | .all, _ =>
    ⟨entries.map (fun e => [.integer (Int64.ofInt e.id), e.k, e.v]), none⟩
  | .byId, [id] =>
    ⟨(entries.filter (fun e => matchesId id e.id)).map (fun e => [e.k, e.v]), none⟩
  | .clear, _ => ⟨[], some ([], entries.length)⟩
  | .delete, [id] =>
    ⟨[], some (entries.filter (fun e => !matchesId id e.id),
      (entries.filter (fun e => matchesId id e.id)).length)⟩
  | .insert, [k, v] => ⟨[], some (entries ++ [⟨nextId entries, k, v⟩], 1)⟩
  | .update, [v, id] =>
    ⟨[], some (entries.map (fun e => if matchesId id e.id then { e with v } else e),
      (entries.filter (fun e => matchesId id e.id)).length)⟩
  | _, _ => ⟨[], none⟩

/-- Parameters that do not match the placeholders in number. Counting stops one
past the last placeholder. -/
def wrongCount (given needed : Nat) : Failure :=
  let got := min given (needed + 1)
  .sqlite s!"Wrong number of parameters passed to query. Got {got}, needed {needed}" none

def noTable : Failure := .sqlite "no such table: t" (some .error)

def notADatabase : Failure := .sqlite "file is not a database" (some .notADatabase)

/-- A table is created that exists. The name of the table is the third word of
the text. -/
def alreadyExists (sql : String) : Failure :=
  let offset := Script.offset 2 sql.toList
  .sqlite s!"table t already exists in {sql} at offset {offset}" (some .error)

/-- What a prepared statement works on. -/
inductive Target
  /-- Its parameters alone. -/
  | parameters (answers : Bool)
  | newTable
  | rows (entries : List Entry)

/-- Prepare the statement that a text starts with. -/
def prepare (s : Statement) (sql : String) : Contents → Except Failure Target
  | contents =>
    match s, contents with
    | .echo _ answers, _ => .ok (.parameters answers)
    | _, .foreign => .error notADatabase
    | .createTable, .blank => .ok .newTable
    | .createTable, .table _ => .error (alreadyExists sql)
    | _, .blank => .error noTable
    | _, .table entries => .ok (.rows entries)

/-- Run a statement: what it answers with, and the database after it. -/
def run (p : Parsed) (sql : String) (params : List Cell) (d : Database) :
    Except Failure Answer × Database :=
  let answer (rows : List (List Cell)) : Answer := ⟨p.statement.columnNames, rows⟩
  match prepare p.statement sql d.contents with
  | .error e => (.error e, d)
  | .ok target =>
    if params.length ≠ p.paramCount then (.error (wrongCount params.length p.paramCount), d)
    else
      let cells := p.fill (params.map Cell.kept)
      match target with
      | .parameters answers => (.ok (answer (if answers then [cells] else [])), d)
      | .newTable => (.ok (answer []), { d with contents := .table [] })
      | .rows entries =>
        let e := effect p.statement cells entries
        (.ok (answer e.rows), match e.write with
          | some (entries, changes) => ⟨.table entries, changes⟩
          | none => d)

/-- Run a statement for its rows. -/
def step (p : Parsed) (sql : String) (params : List Value) (d : Database) :
    Except Failure (List Row) × Database :=
  let (answer, d) := run p sql (params.map Cell.ofValue) d
  (answer.bind Answer.read, d)

/-- Run a statement for the number of changed rows. It must not answer with
rows; one that reads and finds none gives the number of the last change. -/
def executeStatement (p : Parsed) (sql : String) (params : List Value) (d : Database) :
    Except Failure Nat × Database :=
  match run p sql (params.map Cell.ofValue) d with
  | (.error e, d) => (.error e, d)
  | (.ok ⟨_, []⟩, d) => (.ok d.changes, d)
  | (.ok ⟨_, _ :: _⟩, d) =>
    (.error (.sqlite "Execute returned results - did you mean to call query?" none), d)

/-- SQL that the database does not know. -/
def unsupported (sql : String) : Failure := .sqlite s!"unsupported statement: {sql}" (some .error)

/-- The embedded database as an engine. -/
def engine : Engine Database where
  run sql params d :=
    match Statement.parse sql with
    | none => (.error (unsupported sql), d)
    | some p => run p sql params d

def query (sql : String) (params : List Value) (d : Database) :
    Except Failure (Cursor Row) × Database :=
  let (rows, d) := engine.query sql params d
  (rows.map Cursor.ofRows, d)

def execute (sql : String) (params : List Value) (d : Database) :
    Except Failure Nat × Database :=
  match Statement.parse sql with
  | none => (.error (unsupported sql), d)
  | some p => executeStatement p sql params d

/-- The driver name of the embedded database. -/
def driver : String := "sqlite3"

/-- The embedded database as a store. -/
def store : Store Database Row where
  driver := driver
  query := query
  execute := execute

/-- Run statements, each given by what is left of the script from it on; their
parameters are null. The first failure ends the script; what came before it
stays. -/
def runScript (d : Database) : List (List Char) → Option Failure × Database
  | [] => (none, d)
  | rest :: more =>
    let sql := String.ofList (Script.head rest)
    if Statement.tokens sql = some [] then runScript d more
    else match Statement.parse sql with
      | none => (some (unsupported sql), d)
      | some p =>
        match run p (String.ofList rest) (List.replicate p.paramCount .null) d with
        | (.ok _, d) => runScript d more
        | (.error e, d) => (some e, d)

/-- Run a script. -/
def applyScript (d : Database) (script : String) : Option Failure × Database :=
  runScript d (Script.tails script.toList)

end Database

end SqlCatalog.Embedded
