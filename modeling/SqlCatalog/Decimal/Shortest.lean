import SqlCatalog.Binary.Format
/-!
# Shortest decimals

The decimal with the fewest digits that reads back as a given binary number,
and of those the nearest to it. Digit counts are tried in turn: on the decimal
grid with `n` digits only the two neighbours of the number have to be tested,
since a grid point inside the rounding interval has a neighbour inside it too.
All comparisons are exact, in natural numbers.
-/
namespace SqlCatalog

/-- The decimal `coefficient * 10^exponent`. -/
structure Decimal where
  coefficient : Nat
  exponent : Int
deriving DecidableEq

/-- Which of two neighbours at equal distance is taken. -/
inductive Tie
  | up
  | even
deriving DecidableEq

namespace Decimal

/-- How many decimal digits `n` has. -/
def digitCount (n : Nat) : Nat := (Nat.toDigits 10 n).length

/-- The largest `k` with `10^k ≤ num / den`, for positive `num` and `den`. -/
def floorLog10 (num den : Nat) : Int :=
  if den ≤ num then (digitCount (num / den) : Int) - 1
  else -(digitCount ((den + num - 1) / num - 1) : Int)

/-- A binary number with the ends of its rounding interval, all in quarters of
its last place `2^(exponent)`. -/
structure Interval where
  lower : Nat
  value : Nat
  upper : Nat
  /-- The ends themselves round to the number. -/
  closed : Bool
  exponent : Int

/-- The numbers that round to `m * 2^e`. Below a power of two the gap is half
as wide. -/
def Interval.of (f : BinaryFormat) (m : Nat) (e : Int) : Interval where
  lower := if m = Nat.pow 2 (f.precision - 1) ∧ f.minExponent < e then 4 * m - 1 else 4 * m - 2
  value := 4 * m
  upper := 4 * m + 2
  closed := m % 2 == 0
  exponent := e - 2

/-- The better of the number's two neighbours among the multiples of
`10^exponent`, if one of them lies in the interval. -/
def Interval.neighbour? (i : Interval) (tie : Tie) (exponent : Int) : Option Decimal :=
  let num := Nat.pow 2 i.exponent.toNat * Nat.pow 10 (-exponent).toNat
  let den := Nat.pow 2 (-i.exponent).toNat * Nat.pow 10 exponent.toNat
  let d := i.value * num / den
  let lowIn := if i.closed then i.lower * num ≤ d * den else i.lower * num < d * den
  let highIn := if i.closed then (d + 1) * den ≤ i.upper * num else (d + 1) * den < i.upper * num
  let below := i.value * num - d * den
  let above := (d + 1) * den - i.value * num
  let takeLow := below < above || (below == above && tie == .even && d % 2 == 0)
  match decide lowIn, decide highIn with
  | true, true => some ⟨if takeLow then d else d + 1, exponent⟩
  | true, false => some ⟨d, exponent⟩
  | false, true => some ⟨d + 1, exponent⟩
  | false, false => none

/-- The fewest digits that read back as `m * 2^e`, for positive `m`. Seventeen
digits are enough for double precision. -/
def shortest (f : BinaryFormat) (tie : Tie) (m : Nat) (e : Int) : Decimal :=
  let i := Interval.of f m e
  let (num, den) := BinaryFormat.scaled m 1 e
  let top := floorLog10 num den
  ((List.range 17).findSome? (fun (n : Nat) => i.neighbour? tie (top - n))).getD ⟨m, e⟩

end Decimal

end SqlCatalog
