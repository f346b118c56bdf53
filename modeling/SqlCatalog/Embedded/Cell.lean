import SqlCatalog.Failure
import SqlCatalog.Text.Lossy
import SqlCatalog.Value.Basic
/-!
# Cells of an embedded database

The embedded database has five storage classes. A value is handed over in one of
them and read back as a value: booleans come back as integers, and JSON as its text.
Text is handed over as its bytes. The database has no cell for what is not a number,
which becomes null.
-/
namespace SqlCatalog.Embedded

/-- What a cell holds. -/
inductive Cell
  | null
  | integer (n : Int64)
  | real (x : Binary64)
  | text (b : List UInt8)
  | blob (b : List UInt8)
deriving DecidableEq, Inhabited

namespace Cell

/-- How a value is handed to the database. -/
def ofValue : Value → Cell
  | .null => null
  | .bool b => integer (if b then 1 else 0)
  | .int n => integer n
  | .float x => real x
  | .text s => text (Text.utf8 s)
  | .bytes b => blob b
  | .json j => text (Text.utf8 j.render)

/-- What the database makes of a cell that it is handed. -/
def kept : Cell → Cell
  | real x => if x.isNaN then null else real x
  | c => c

/-- What is read from a cell. -/
def toValue : Cell → Value
  | null => .null
  | integer n => .int n
  | real x => .float x
  | text b => .text (Text.lossy b)
  | blob b => .bytes b

end Cell

/-- A row with the names of its columns. -/
structure Row where
  columns : List String
  values : List Value

namespace Row

/-- The failure to read a column that a row does not have. -/
def noColumn (i : Nat) : Failure := .sqlite s!"Invalid column index: {i}" none

/-- The values of columns, the first of which has this number. -/
def readValues (i : Nat) : List String → List Cell → Except Failure (List Value)
  | [], _ => .ok []
  | _ :: _, [] => .error (noColumn i)
  | _ :: columns, c :: cells => (readValues (i + 1) columns cells).map (c.toValue :: ·)

/-- Read a row, column by column. -/
def read (columns : List String) (cells : List Cell) : Except Failure Row :=
  (readValues 0 columns cells).map (⟨columns, ·⟩)

/-- The value of a column by its position. -/
def get? (r : Row) (i : Nat) : Option Value := r.values[i]?

/-- The value of the first column with this name. -/
def find? (r : Row) (column : String) : Option Value :=
  (r.columns.findIdx? (· == column)).bind (r.values[·]?)

def size (r : Row) : Nat := r.values.length

/-- The values as shown to a reader, with tabs between them. -/
def line (r : Row) : String := "\t".intercalate (r.values.map Value.display)

/-- The column names, with tabs between them. -/
def heading (r : Row) : String := "\t".intercalate r.columns

end Row

end SqlCatalog.Embedded
