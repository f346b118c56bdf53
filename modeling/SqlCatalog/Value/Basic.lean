import SqlCatalog.Json
import SqlCatalog.Text.Utf8
/-!
# Values

Argument and cell values, independent of any database. The accessors read a
value as a given kind and say `none` for values of another kind; the only
coercions are between booleans and integers, from integers to floats and from
text to its bytes.
-/
namespace SqlCatalog

/-- A value passed to a store or read back from one. -/
inductive Value
  | null
  | bool (b : Bool)
  | int (n : Int64)
  | float (x : Binary64)
  | text (s : String)
  | bytes (b : List UInt8)
  | json (j : Json)
deriving Inhabited

namespace Value

def isNull : Value → Bool
  | null => true
  | _ => false

/-- Text, as it is. -/
def asText : Value → Option String
  | text s => some s
  | _ => none

/-- Integers, and booleans as 0 and 1. -/
def asInt : Value → Option Int64
  | int n => some n
  | bool b => some (if b then 1 else 0)
  | _ => none

/-- Floats, and integers as the nearest float. -/
def asFloat : Value → Option Binary64
  | float x => some x
  | int n => some (.ofInt n.toInt)
  | _ => none

/-- Booleans, and integers that stand for them where there is no boolean type. -/
def asBool : Value → Option Bool
  | bool b => some b
  | int n => some (n != 0)
  | _ => none

/-- Bytes, and text as its UTF-8 bytes. -/
def asBytes : Value → Option (List UInt8)
  | bytes b => some b
  | text s => some (Text.utf8 s)
  | _ => none

/-- The name of a value's kind. -/
def kind : Value → String
  | null => "null"
  | bool _ => "bool"
  | int _ => "int"
  | float _ => "float"
  | text _ => "text"
  | bytes _ => "bytes"
  | json _ => "json"

/-- Floats are written out in full, never with an exponent, and whole numbers
without a point; of two shortest candidates at equal distance the larger is
taken. -/
def number : Layout where
  positional := fun _ => true
  fraction := false
  tie := .up
  notANumber := "NaN"
  infinity := "inf"

/-- A value as shown to a reader. Bytes show as their count. -/
def display : Value → String
  | null => "NULL"
  | bool b => if b then "true" else "false"
  | int n => toString n.toInt
  | float x => number.write x
  | text s => s
  | bytes b => s!"<{b.length} bytes>"
  | json j => j.render

end Value

end SqlCatalog
