import SqlCatalog.Catalog.Basic
import SqlCatalog.Toml.Document
/-!
# Catalog files

A catalog as a TOML document declares it: the driver it was written for, a
dialect that takes precedence over the driver's, and the statements. Other keys
are free.
-/
namespace SqlCatalog

/-- What a catalog file declares. -/
structure Declaration where
  driver : Option String
  dialect : Option Dialect
  catalog : Catalog

namespace Declaration

/-- The dialect of the file: its own, else that of its driver. -/
def declared (d : Declaration) : Option Dialect :=
  d.dialect.or (d.driver.map Dialect.ofDriver)

/-- A key that may be missing, but not hold anything else. -/
def optional {α : Type} (read? : Toml.Node → Option α) (key : String) (members : Toml.Members) :
    Option (Option α) :=
  match Entries.find? key members with
  | none => some none
  | some node => (read? node).map some

def text? : Toml.Node → Option String
  | .text s => some s
  | _ => none

/-- A dialect by its exact name; the name may also be the only key of a table,
over something empty. -/
def dialect? : Toml.Node → Option Dialect
  | .text name => Dialect.ofName? name
  | .table _ [(name, .table _ [])] => Dialect.ofName? name
  | .table _ [(name, .array [])] => Dialect.ofName? name
  | _ => none

/-- The id of the statement that a date stands for. -/
def momentId : String := "$__toml_private_datetime"

/-- A table of texts. A date or a time in its place is a single statement, its
text under an id that is kept for this. -/
def statements? : Toml.Node → Option Catalog
  | .table _ members =>
    members.foldlM (fun (c : Catalog) (id, node) => (text? node).map (c.insert id ·)) KeyMap.empty
  | .moment m => some (KeyMap.empty.insert momentId m.write)
  | _ => none

def ofMembers (members : Toml.Members) : Option Declaration := do
  let driver ← optional text? "driver" members
  let dialect ← optional dialect? "bind_style" members
  let catalog ← optional statements? "statements" members
  some { driver, dialect, catalog := catalog.getD KeyMap.empty }

/-- What a document declares, if it is a catalog. -/
def parse (document : String) : Except Toml.Fault Declaration := do
  let members ← Toml.parse document
  Toml.orMalformed (ofMembers members)

/-- What is said of a fault. Only a limit is named, on a line of its own. -/
def faultDetail : Toml.Fault → String
  | .malformed => ""
  | .tooDeep => ": recursion limit\n"

/-- Read a catalog from a text. -/
def ofText (document : String) : Except Failure Declaration :=
  (parse document).mapError fun fault => .config s!"invalid catalog{faultDetail fault}"

/-- Read a catalog from the contents of the file at `path`, or the reason why it
could not be read. -/
def ofFile (path : String) (contents : Except String String) : Except Failure Declaration :=
  match contents with
  | .error reason => .error (.config s!"failed to read catalog {path}: {reason}")
  | .ok document =>
    (parse document).mapError fun fault =>
      .config s!"failed to parse catalog {path}{faultDetail fault}"

end Declaration

end SqlCatalog
