import SqlCatalog.Decimal.Digits
import SqlCatalog.Embedded.Cell
import SqlCatalog.Embedded.Numeral
/-!
# Cells as ids

A cell that is compared with an id counts as an integer where it can: a real
that is whole, and text that writes a number with a whole value. Text may have
white space around the number, a sign, a fraction and an exponent. Digits alone
are exact; any other number has the value of its `Numeral`.
-/
namespace SqlCatalog.Embedded.Cell

def isSpace (c : Char) : Bool := c == ' ' || (9 ≤ c.toNat && c.toNat ≤ 13)

/-- A text without the white space around it. -/
def trim (cs : List Char) : List Char :=
  ((cs.dropWhile isSpace).reverse.dropWhile isSpace).reverse

/-- The whole number that an unsigned number is. -/
def whole? (cs : List Char) : Option Nat :=
  if cs.all Char.isDigit then Decimal.natural? cs
  else do
    let n ← Numeral.read? cs
    n.value.toInt?.map Int.toNat

/-- The integer that a text counts as. -/
def idOfText? (s : String) : Option Int :=
  match trim s.toList with
  | '-' :: cs => (whole? cs).map (fun n => -(n : Int))
  | '+' :: cs => (whole? cs).map Int.ofNat
  | cs => (whole? cs).map Int.ofNat

/-- The id that a cell counts as. -/
def id? : Cell → Option Int
  | integer n => some n.toInt
  | real x => x.toInt?
  | text b => idOfText? (Text.lossy b)
  | null | blob _ => none

end SqlCatalog.Embedded.Cell
