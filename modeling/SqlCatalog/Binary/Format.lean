/-!
# Binary floating-point formats

A format has a precision and an exponent width. `decode` reads a word of the
format, `roundMagnitude` gives the word nearest to a ratio of natural numbers,
ties to even, in exact arithmetic. The magnitude of a word is linear in its
bits between two powers of two, so `(e - minExponent) * 2^(precision - 1) + s`
is the word of `s * 2^e` for normal and subnormal numbers alike, and a carry
out of `s` lands in the exponent by itself.
-/
namespace SqlCatalog

/-- A format of `precision` significant bits, the leading one included, and `exponentBits`
bits of exponent. -/
structure BinaryFormat where
  precision : Nat
  exponentBits : Nat
deriving DecidableEq

/-- What a word of a binary format denotes. -/
inductive Datum
  | nan
  | infinite (negative : Bool)
  /-- The number `significand * 2^exponent`, with a sign. -/
  | finite (negative : Bool) (significand : Nat) (exponent : Int)
deriving DecidableEq

namespace BinaryFormat

def single : BinaryFormat := ⟨24, 8⟩

def double : BinaryFormat := ⟨53, 11⟩

/-- Double extended precision, which holds every integer below 2^64. -/
def extended : BinaryFormat := ⟨64, 15⟩

/-- The exponent of the last place of subnormal numbers. -/
def minExponent (f : BinaryFormat) : Int :=
  3 - Nat.pow 2 (f.exponentBits - 1) - f.precision

/-- The word of positive infinity; the words below it are the magnitudes. -/
def infinity (f : BinaryFormat) : Nat :=
  (Nat.pow 2 f.exponentBits - 1) * Nat.pow 2 (f.precision - 1)

/-- The sign bit. -/
def signBit (f : BinaryFormat) : Nat := Nat.pow 2 (f.exponentBits + f.precision - 1)

/-- Read a word. -/
def decode (f : BinaryFormat) (word : Nat) : Datum :=
  let negative := word / f.signBit % 2 == 1
  let magnitude := word % f.signBit
  let unit := Nat.pow 2 (f.precision - 1)
  let biased := magnitude / unit
  let fraction := magnitude % unit
  if biased = Nat.pow 2 f.exponentBits - 1 then
    if fraction = 0 then .infinite negative else .nan
  else if biased = 0 then .finite negative fraction f.minExponent
  else .finite negative (fraction + unit) (f.minExponent + biased - 1)

/-- The natural number nearest to `num / den`, ties to even. -/
def nearestEven (num den : Nat) : Nat :=
  let q := num / den
  let twice := 2 * (num % den)
  if twice < den then q
  else if den < twice then q + 1
  else if q % 2 = 0 then q else q + 1

/-- The ratio `num * 2^shift / den` as a pair of natural numbers. -/
def scaled (num den : Nat) (shift : Int) : Nat × Nat :=
  (num * Nat.pow 2 shift.toNat, den * Nat.pow 2 (-shift).toNat)

/-- The largest `k` with `2^k ≤ num / den`, for positive `num` and `den`. -/
def floorLog2 (num den : Nat) : Int :=
  let guess : Int := num.log2 - den.log2
  let (n, d) := scaled num den (-guess)
  if d ≤ n then guess else guess - 1

/-- The word of the magnitude nearest to `num / den`, ties to even; infinity
from halfway between the largest number and the next power of two. -/
def roundMagnitude (f : BinaryFormat) (num den : Nat) : Nat :=
  if num = 0 then 0 else
    let e := max (floorLog2 num den + 1 - f.precision) f.minExponent
    let (n, d) := scaled num den (-e)
    min f.infinity ((e - f.minExponent).toNat * Nat.pow 2 (f.precision - 1) + nearestEven n d)

/-- The word nearest to a datum. What is not a number gets the word with nothing but the
first place of its fraction set. -/
def encode (f : BinaryFormat) : Datum → Nat
  | .nan => f.infinity + Nat.pow 2 (f.precision - 2)
  | .infinite negative => (if negative then f.signBit else 0) + f.infinity
  | .finite negative m e =>
    let (n, d) := scaled m 1 e
    (if negative then f.signBit else 0) + f.roundMagnitude n d

/-- The word of what is not a number, in another format. It is made as processors make it:
the sign stays, and so do the highest places of the fraction, the first of which is set. -/
def convertNaN (f g : BinaryFormat) (word : Nat) : Nat :=
  let negative := word / f.signBit % 2 == 1
  let unit := Nat.pow 2 (f.precision - 1)
  let quiet := Nat.pow 2 (g.precision - 2)
  let fraction := word % unit * Nat.pow 2 (g.precision - 1) / unit
  (if negative then g.signBit else 0) + (g.infinity + (quiet + fraction % quiet))

/-- The word in another format that is nearest to a word. -/
def convert (f g : BinaryFormat) (word : Nat) : Nat :=
  match f.decode word with
  | .nan => f.convertNaN g word
  | d => g.encode d

/-- The word of the product of two magnitudes, rounded; infinity if one of them
is infinite. -/
def mulMagnitude (f : BinaryFormat) (a b : Nat) : Nat :=
  match f.decode a, f.decode b with
  | .finite _ m d, .finite _ n e => f.encode (.finite false (m * n) (d + e))
  | _, _ => f.infinity

end BinaryFormat

end SqlCatalog
