import SqlCatalog.Binary.Format
/-!
# Single and double precision numbers

A number is its bits. Integers and decimals round to the nearest double, ties to
even; narrowing to single precision rounds the same way and may give infinity or
zero, widening is exact. What is not a number has a sign and a fraction too, which
narrowing and widening keep as far as there are places for it.
-/
namespace SqlCatalog

/-- A single precision number, as its bits. -/
structure Binary32 where
  bits : UInt32
deriving DecidableEq

namespace Binary32

def datum (x : Binary32) : Datum := BinaryFormat.single.decode x.bits.toNat

def ofDatum (d : Datum) : Binary32 := ⟨(BinaryFormat.single.encode d).toUInt32⟩

/-- The single nearest to an integer. -/
def ofInt (n : Int) : Binary32 := ofDatum (.finite (n < 0) n.natAbs 0)

end Binary32

/-- A double precision number, as its bits. -/
structure Binary64 where
  bits : UInt64
deriving DecidableEq

namespace Binary64

def datum (x : Binary64) : Datum := BinaryFormat.double.decode x.bits.toNat

def ofDatum (d : Datum) : Binary64 := ⟨(BinaryFormat.double.encode d).toUInt64⟩

def isNaN (x : Binary64) : Bool := x.datum == .nan

/-- The double nearest to an integer. -/
def ofInt (n : Int) : Binary64 := ofDatum (.finite (n < 0) n.natAbs 0)

/-- The double nearest to `coefficient * 10^exponent`. -/
def ofDecimal (negative : Bool) (coefficient : Nat) (exponent : Int) : Binary64 :=
  let magnitude := BinaryFormat.double.roundMagnitude
    (coefficient * Nat.pow 10 exponent.toNat) (Nat.pow 10 (-exponent).toNat)
  ⟨((if negative then BinaryFormat.double.signBit else 0) + magnitude).toUInt64⟩

/-- The nearest single. -/
def toSingle (x : Binary64) : Binary32 :=
  ⟨(BinaryFormat.convert .double .single x.bits.toNat).toUInt32⟩

/-- A single, widened. -/
def ofSingle (x : Binary32) : Binary64 :=
  ⟨(BinaryFormat.convert .single .double x.bits.toNat).toUInt64⟩

/-- The integer a double is equal to, if there is one. -/
def toInt? (x : Binary64) : Option Int :=
  match x.datum with
  | .finite negative m e =>
    let (n, d) := BinaryFormat.scaled m 1 e
    if n % d = 0 then some (if negative then -(n / d : Nat) else (n / d : Nat)) else none
  | _ => none

end Binary64

end SqlCatalog
