import SqlCatalog.KeyMap
import SqlCatalog.Template.Compile
/-!
# Statement catalogs

A catalog maps statement ids to templates and lists them by id. It is built from
a list of pairs and by adding statements one by one. Compiling looks the id up
first; validating compiles every statement in id order and stops at the first
malformed one.
-/
namespace SqlCatalog

/-- Templates by statement id. -/
abbrev Catalog := KeyMap String

namespace Catalog

/-- Add or replace a statement; answers the template that it had before. -/
def put (c : Catalog) (id template : String) : Option String × Catalog :=
  (c.find? id, c.insert id template)

/-- A catalog with one more statement, or with another template for one. -/
def adding (c : Catalog) (id template : String) : Catalog := (c.put id template).2

/-- Compile one statement. -/
def compile (c : Catalog) (id : String) (d : Dialect) : Except Failure Compiled :=
  match c.find? id with
  | some template => Template.compile template d
  | none => .error (.unknownStatement id)

/-- The first entry that does not compile. -/
def firstMalformed (d : Dialect) : List (String × String) → Option (String × Failure)
  | [] => none
  | (id, template) :: rest =>
    match Template.compile template d with
    | .ok _ => firstMalformed d rest
    | .error e => some (id, e)

/-- Compile every statement; the first malformed one comes with its id. -/
def validate (c : Catalog) (d : Dialect) : Except (String × Failure) Unit :=
  match firstMalformed d c.entries with
  | none => .ok ()
  | some e => .error e

end Catalog

end SqlCatalog
