/-!
# Text out of bytes

Bytes are read as UTF-8, one after the other. What is no character is read as the
replacement character: once for a byte that begins none, and once for a character
that breaks off, after which the byte that breaks it off is read anew.
-/
namespace SqlCatalog.Text

def replacement : Char := '\uFFFD'

/-- Where a reader of bytes stands. -/
inductive Reading
  | between
  /-- Inside a character with these bits so far. The next byte must be in a range, and
  `more` bytes follow it. -/
  | inside (bits low high more : Nat)
deriving DecidableEq

namespace Reading

/-- Behind the first byte of a character. The range of the second byte is narrower behind
some first bytes: no character is written longer than it must be, none is a surrogate, and
none is beyond the last code point. -/
def start (b : Nat) : List Char × Reading :=
  if b < 0x80 then ([Char.ofNat b], between)
  else if 0xc2 ≤ b ∧ b ≤ 0xdf then ([], inside (b % 0x20) 0x80 0xbf 0)
  else if 0xe0 ≤ b ∧ b ≤ 0xef then
    ([], inside (b % 0x10) (if b = 0xe0 then 0xa0 else 0x80) (if b = 0xed then 0x9f else 0xbf) 1)
  else if 0xf0 ≤ b ∧ b ≤ 0xf4 then
    ([], inside (b % 0x8) (if b = 0xf0 then 0x90 else 0x80) (if b = 0xf4 then 0x8f else 0xbf) 2)
  else ([replacement], between)

/-- What one byte more completes, and where the reader stands behind it. -/
def step : Reading → Nat → List Char × Reading
  | between, b => start b
  | inside bits low high more, b =>
    if low ≤ b ∧ b ≤ high then
      let bits := bits * 0x40 + b % 0x40
      match more with
      | 0 => ([Char.ofNat bits], between)
      | more + 1 => ([], inside bits 0x80 0xbf more)
    else
      let (read, next) := start b
      (replacement :: read, next)

/-- What bytes read as from some place on. -/
def decode : Reading → List UInt8 → List Char
  | between, [] => []
  | inside .., [] => [replacement]
  | r, b :: rest => (r.step b.toNat).1 ++ decode (r.step b.toNat).2 rest

end Reading

/-- The text that bytes read as. -/
def lossy (bytes : List UInt8) : String := String.ofList (Reading.between.decode bytes)

end SqlCatalog.Text
