import SqlCatalog.Catalog.Declaration
import SqlCatalog.Command.Line
/-!
# Printing compiled statements

The output of `compile`, `check` and `drivers`. Compiling prints a block for
each statement and is all or nothing: the first statement that fails, in the
order asked for, is the error.
-/
namespace SqlCatalog.Command

/-- The dialect to compile for. -/
def DialectSource.resolve (s : DialectSource) (d : Declaration) : Dialect :=
  match s with
  | .dialect chosen => chosen
  | .driver name => Dialect.ofDriver name
  | .catalog => d.declared.getD Dialect.fallback

/-- The block of one statement. -/
def block (id : String) (d : Dialect) (c : Compiled) : String :=
  let names := ", ".intercalate c.names
  let params := if c.names.isEmpty then "" else s!"-- params: {names}\n"
  s!"-- {id} ({d.name})\n{c.sql}\n{params}\n"

/-- The blocks of these statements. A failure comes with its statement. -/
def blocks (catalog : Catalog) (d : Dialect) : List String → Except (String × Failure) String
  | [] => .ok ""
  | id :: rest =>
    match catalog.compile id d with
    | .error e => .error (id, e)
    | .ok c => (blocks catalog d rest).map (block id d c ++ ·)

/-- The blocks of the statements asked for, or of all if there are none. -/
def render (catalog : Catalog) (d : Dialect) (ids : List String) :
    Except (String × Failure) String :=
  blocks catalog d (if ids.isEmpty then catalog.keys else ids)

/-- Check a catalog under these dialects, the first failure with its dialect. -/
def checkUnder (catalog : Catalog) : List Dialect → Except (String × Dialect × Failure) Unit
  | [] => .ok ()
  | d :: rest =>
    match catalog.validate d with
    | .ok () => checkUnder catalog rest
    | .error (id, e) => .error (id, d, e)

/-- Check a catalog under every dialect. -/
def check (catalog : Catalog) : Except (String × Dialect × Failure) Unit :=
  checkUnder catalog Dialect.all

/-- A text with blanks behind it, up to a width. -/
def padded (width : Nat) (s : String) : String :=
  s ++ String.ofList (List.replicate (width - s.length) ' ')

/-- The known drivers in two columns. -/
def driverTable : String :=
  String.join (Dialect.drivers.map fun (driver, d) => s!"{padded 18 driver} {d.name}\n")

end SqlCatalog.Command
