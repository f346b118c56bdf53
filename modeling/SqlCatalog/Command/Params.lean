import SqlCatalog.Decimal.Digits
import SqlCatalog.Text.Blank
import SqlCatalog.Value.Basic
/-!
# Parameters on the command line

How `key=value` tokens become arguments, and how the command line tells the
statements that answer with rows from the others.
-/
namespace SqlCatalog.Command

/-- The value of a raw parameter: null, an integer of 64 bits, or else the text
itself. -/
def parseValue (raw : String) : Value :=
  if raw = "null" then .null
  else match Decimal.integer? raw.toList with
    | some n =>
      if Int64.minValue.toInt ≤ n ∧ n ≤ Int64.maxValue.toInt then .int (Int64.ofInt n)
      else .text raw
    | none => .text raw

/-- Parameters as the flat list of keys and values that binding expects. -/
def flatArguments : List (String × String) → List Value
  | [] => []
  | (key, raw) :: rest => .text key :: parseValue raw :: flatArguments rest

/-- The key words of statements that answer with rows. -/
def rowKeywords : List String := ["select", "with", "pragma", "values"]

/-- Does a statement answer with rows? Its first word tells, without the opening
brackets in front of it. -/
def returnsRows (sql : String) : Bool :=
  let keyword := (Text.firstWord sql.toList).dropWhile (· == '(')
  rowKeywords.contains (String.ofList (keyword.map Char.toLower))

end SqlCatalog.Command
