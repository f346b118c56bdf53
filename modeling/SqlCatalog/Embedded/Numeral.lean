import SqlCatalog.Binary.Binary64
import SqlCatalog.Decimal.Digits
/-!
# Decimal numerals

How the embedded database reads a number with a point or an exponent. The digits
go into a significand as long as 64 bits can take another one, and what is left
is a power of ten. `value` multiplies factors of that power in with extended
precision, rounding after each, and rounds the product to double precision. So a
numeral is not always read as the double nearest to it: its digits may be cut,
and it is rounded more than once.
-/
namespace SqlCatalog.Embedded

/-- The number `significand * 10^exponent`. -/
structure Numeral where
  significand : Nat
  exponent : Int
deriving DecidableEq

namespace Numeral

/-! ## Reading -/

/-- Can the significand take another digit? Any digit then keeps it below 2^64. -/
def hasRoom (n : Numeral) : Bool := n.significand < (UInt64.size - 10) / 10

/-- The significand with another digit. -/
def push (n : Numeral) (c : Char) : Nat := Nat.ofDigitChars 10 [c] n.significand

/-- Add a digit before the point. One that has no room still counts as a place. -/
def addWhole (n : Numeral) (c : Char) : Numeral :=
  if n.hasRoom then { n with significand := n.push c } else { n with exponent := n.exponent + 1 }

/-- Add a digit behind the point. One that has no room is dropped. -/
def addFraction (n : Numeral) (c : Char) : Numeral :=
  if n.hasRoom then ⟨n.push c, n.exponent - 1⟩ else n

/-- The number that digits of an exponent write, which is cut at 10000 once it
has five digits and more follow. -/
def cutNatural? (ds : List Char) : Option Nat :=
  (Decimal.natural? ds).map fun _ =>
    ds.foldl (fun e c => if e < 10000 then Nat.ofDigitChars 10 [c] e else 10000) 0

/-- The exponent behind the digits of a number; 0 where there is none. -/
def exponent? : List Char → Option Int
  | [] => some 0
  | e :: cs =>
    if e = 'e' ∨ e = 'E' then
      match cs with
      | '-' :: ds => (cutNatural? ds).map fun n => -(n : Int)
      | '+' :: ds | ds => (cutNatural? ds).map Int.ofNat
    else none

/-- An unsigned number. A digit must stand before or behind the point. -/
def read? (cs : List Char) : Option Numeral :=
  let whole := cs.takeWhile Char.isDigit
  let (fraction, rest) := match cs.dropWhile Char.isDigit with
    | '.' :: rest => (rest.takeWhile Char.isDigit, rest.dropWhile Char.isDigit)
    | rest => ([], rest)
  if whole ++ fraction = [] then none
  else (exponent? rest).map fun e =>
    let n := fraction.foldl addFraction (whole.foldl addWhole ⟨0, 0⟩)
    { n with exponent := n.exponent + e }

/-! ## The value -/

/-- Move factors of ten from the exponent into the significand while 64 bits hold
it. -/
def absorb (significand : Nat) : Nat → Numeral
  | 0 => ⟨significand, 0⟩
  | e + 1 =>
    if significand < UInt64.size / 10 then absorb (10 * significand) e
    else ⟨significand, (e + 1 : Nat)⟩

/-- Cancel factors of ten of the significand against a negative exponent. -/
def cancel (significand : Nat) : Nat → Numeral
  | 0 => ⟨significand, 0⟩
  | e + 1 =>
    if significand % 10 = 0 then cancel (significand / 10) e
    else ⟨significand, -(e + 1 : Nat)⟩

/-- The same number with an exponent as near to 0 as 64 bits allow. -/
def reduce (n : Numeral) : Numeral :=
  if 0 ≤ n.exponent then absorb n.significand n.exponent.natAbs
  else cancel n.significand n.exponent.natAbs

/-- Multiply a word of extended precision by `10^k`, or `10^(-k)`, a number of
times. -/
def multiply (inverse : Bool) (k times word : Nat) : Nat :=
  let power := if inverse then BinaryFormat.extended.roundMagnitude 1 (Nat.pow 10 k)
    else BinaryFormat.extended.roundMagnitude (Nat.pow 10 k) 1
  Nat.repeat (BinaryFormat.extended.mulMagnitude power) times word

/-- The double that a number counts as. Its power of ten goes in by hundreds, by
tens and by ones. -/
def value (n : Numeral) : Binary64 :=
  let n := n.reduce
  let inverse := n.exponent < 0
  let e := n.exponent.natAbs
  let word := BinaryFormat.extended.roundMagnitude n.significand 1
  let word := multiply inverse 100 (e / 100) word
  let word := multiply inverse 10 (e % 100 / 10) word
  let word := multiply inverse 1 (e % 10) word
  .ofDatum (BinaryFormat.extended.decode word)

end Numeral

end SqlCatalog.Embedded
