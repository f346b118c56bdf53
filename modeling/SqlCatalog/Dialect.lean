/-!
# Placeholder dialects

The placeholder syntaxes that database drivers expect, and the table from
driver names to dialects.
-/
namespace SqlCatalog

/-- A placeholder syntax. -/
inductive Dialect
  /-- The driver is not in the table; written like `question`. -/
  | unknown
  /-- Written `?`. -/
  | question
  /-- Written `$1, $2, ...`. -/
  | dollar
  /-- Written `:name`, as in the template. -/
  | named
  /-- Written `@p1, @p2, ...`. -/
  | atSign
deriving DecidableEq, Inhabited

namespace Dialect

/-- Every dialect, in the order in which they are tried. -/
def all : List Dialect := [unknown, question, dollar, named, atSign]

/-- The dialect where none is declared. -/
def fallback : Dialect := unknown

/-- The lower-case name. -/
def name : Dialect → String
  | unknown => "unknown"
  | question => "question"
  | dollar => "dollar"
  | named => "named"
  | atSign => "at"

/-- The dialect with exactly this name. -/
def ofName? (s : String) : Option Dialect := all.find? (fun d => d.name == s)

theorem ofName?_name (d : Dialect) : ofName? d.name = some d := by cases d <;> decide

/-- The dialect with this name up to ASCII case; the error is the name looked
for, in lower case. -/
def parse (s : String) : Except String Dialect :=
  let lower := s.map Char.toLower
  match ofName? lower with
  | some d => .ok d
  | none => .error lower

/-- The wording of a failed `parse`. -/
def unknownName (lower : String) : String := s!"unknown bind style: {lower}"

/-- Known drivers with the dialect of each. -/
def drivers : List (String × Dialect) :=
  [("postgres", dollar), ("pgx", dollar), ("pq-timeouts", dollar), ("cloudsqlpostgres", dollar),
   ("ql", dollar), ("nrpostgres", dollar), ("cockroach", dollar), ("mysql", question),
   ("sqlite3", question), ("rqlite", question), ("nrmysql", question), ("nrsqlite3", question),
   ("oci8", named), ("ora", named), ("goracle", named), ("godror", named), ("sqlserver", atSign)]

/-- The dialect of a driver. -/
def ofDriver (driver : String) : Dialect := (drivers.lookup driver).getD unknown

end Dialect

end SqlCatalog
