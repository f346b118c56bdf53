import SqlCatalog.Binary.Binary64
import SqlCatalog.Decimal.Shortest
/-!
# Layouts of numbers

How a double is written. The digits are the shortest that read back; a `Layout`
says where they stand: which scientific exponents are written positionally,
whether a whole number keeps a `.0`, and how a tie between two shortest
candidates is settled.
-/
namespace SqlCatalog

/-- The decisions of one way to write doubles. -/
structure Layout where
  /-- Is a number with this scientific exponent written positionally? -/
  positional : Int → Bool
  /-- A whole number ends in `.0`. -/
  fraction : Bool
  tie : Tie
  notANumber : String
  infinity : String

namespace Layout

/-- The digits of a coefficient without its trailing zeros. -/
def significantDigits (n : Nat) : List Char :=
  ((Nat.toDigits 10 n).reverse.dropWhile (· == '0')).reverse

/-- Digits `ds` with the decimal point after place `exponent`: `d.ddd` times
`10^exponent`, written out. -/
def writePositional (fraction : Bool) (ds : List Char) (exponent : Int) : List Char :=
  if exponent < 0 then
    '0' :: '.' :: (List.replicate ((-exponent).toNat - 1) '0' ++ ds)
  else
    let whole := exponent.toNat + 1
    if ds.length ≤ whole then
      ds ++ List.replicate (whole - ds.length) '0' ++ (if fraction then ['.', '0'] else [])
    else ds.take whole ++ '.' :: ds.drop whole

/-- Scientific, as in `d.ddde+x`. -/
def writeScientific (ds : List Char) (exponent : Int) : List Char :=
  let mantissa := match ds with
    | d :: [] => [d]
    | d :: rest => d :: '.' :: rest
    | [] => []
  mantissa ++ 'e' :: (if exponent < 0 then '-' else '+') :: Nat.toDigits 10 exponent.natAbs

/-- The magnitude of a finite double. -/
def writeMagnitude (l : Layout) (m : Nat) (e : Int) : List Char :=
  if m = 0 then writePositional l.fraction ['0'] 0 else
    let d := Decimal.shortest BinaryFormat.double l.tie m e
    let exponent := d.exponent + Decimal.digitCount d.coefficient - 1
    let ds := significantDigits d.coefficient
    if l.positional exponent then writePositional l.fraction ds exponent
    else writeScientific ds exponent

/-- A double as text. -/
def write (l : Layout) (x : Binary64) : String :=
  match x.datum with
  | .nan => l.notANumber
  | .infinite negative => (if negative then "-" else "") ++ l.infinity
  | .finite negative m e =>
    (if negative then "-" else "") ++ String.ofList (l.writeMagnitude m e)

end Layout

end SqlCatalog
