import SqlCatalog.Decimal.Shortest
import SqlCatalog.Toml.Basic
/-!
# Numbers in TOML

Integers in four bases and floats. An underscore stands between two digits, and a
whole part has no zero before other digits. A text that is written like a number
is one, `Node.invalidNumber` if it has no value: it is out of range, has no
digits behind `0x`, or, where underscores show it to be an integer, has
characters that are no decimal digits.
-/
namespace SqlCatalog.Toml.Number

/-- The value of a digit of any base. -/
def digitValue (c : Char) : Nat :=
  if c.isDigit then c.toNat - 48 else c.toLower.toNat - 87

def isBase (base : Nat) (c : Char) : Bool :=
  (c.isDigit || ('a' ≤ c.toLower && c.toLower ≤ 'f')) && digitValue c < base

def ofDigits (base : Nat) (ds : List Char) : Nat :=
  ds.foldl (fun n c => n * base + digitValue c) 0

/-- A text without its underscores, each of which has a digit on both sides. -/
def ungroup (isDigit : Char → Bool) : List Char → Option (List Char)
  | [] => some []
  | '_' :: _ => none
  | c :: '_' :: d :: rest =>
    if isDigit c && isDigit d then (ungroup isDigit (d :: rest)).map (c :: ·) else none
  | c :: rest => (ungroup isDigit rest).map (c :: ·)

/-- Does a whole part start with a zero before other digits? -/
def hasLeadingZero : List Char → Bool
  | '0' :: c :: _ => c.isDigit || c == '_'
  | _ => false

/-- The integer that digits write; 128 bits must hold it, signed or not. -/
def integer (negative : Bool) (base : Nat) (ds : List Char) : Node :=
  let magnitude : Int := ofDigits base ds
  let n := if negative then -magnitude else magnitude
  if ds ≠ [] ∧ ds.all (isBase base) ∧ -Nat.pow 2 127 ≤ n ∧ n < Nat.pow 2 128 then .integer n
  else .invalidNumber

/-- Unsigned digits in a base other than ten. -/
def based? (base : Nat) (cs : List Char) : Option Node :=
  if cs.all (fun c => isBase base c || c == '_') then
    (ungroup (isBase base) cs).map (integer false base)
  else none

/-- The double nearest to `coefficient * 10^exponent`, which must be finite. An
exponent beyond any double is settled without raising ten to it. -/
def ofDecimal (negative : Bool) (coefficient : Nat) (exponent : Int) : Node :=
  let top := exponent + Decimal.digitCount coefficient
  let x :=
    if coefficient = 0 ∨ top < -400 then Binary64.ofDecimal negative 0 0
    else if 400 < top then Binary64.ofDatum (.infinite negative)
    else Binary64.ofDecimal negative coefficient exponent
  if x.datum = .infinite negative then .invalidNumber else .float x

/-- Digits up to the end, perhaps behind a sign. -/
def signedDigits? : List Char → Option Int
  | '-' :: cs => do
    let (ds, []) ← digits? cs | none
    some (-(ofDigits 10 ds : Int))
  | '+' :: cs | cs => do
    let (ds, []) ← digits? cs | none
    some (ofDigits 10 ds : Int)

/-- The exponent behind the digits of a number; 0 where there is none. -/
def exponent? : List Char → Option Int
  | [] => some 0
  | e :: cs => if e = 'e' ∨ e = 'E' then signedDigits? cs else none

/-- A float without its underscores. -/
def float? (negative : Bool) (cs : List Char) : Option Node := do
  let (whole, rest) ← digits? cs
  let (fraction, rest) ← match rest with
    | '.' :: rest => digits? rest
    | rest => some ([], rest)
  let exponent ← exponent? rest
  some (ofDecimal negative (ofDigits 10 (whole ++ fraction)) (exponent - fraction.length))

/-- A character by which a float differs from an integer. -/
def isFloatMark (c : Char) : Bool := c == '.' || c == 'e' || c == 'E'

/-- A decimal number without its sign. What follows its first digits tells which
kind it is. -/
def decimal? (negative : Bool) (cs : List Char) : Option Node :=
  let rest := cs.dropWhile Char.isDigit
  if cs = [] ∨ hasLeadingZero cs ∨ ' ' ∈ rest then none
  else if cs = ['i', 'n', 'f'] then some (.float (Binary64.ofDatum (.infinite negative)))
  else if cs = ['n', 'a', 'n'] then some (.float (Binary64.ofDatum .nan))
  else if rest.any isFloatMark then (ungroup Char.isDigit cs).bind (float? negative)
  else if rest = [] ∨ rest.head? = some '_' then
    (ungroup (isBase 16) cs).map (integer negative 10)
  else none

/-- A number. Only decimal ones have a sign. -/
def read? : List Char → Option Node
  | '0' :: 'x' :: cs => based? 16 cs
  | '0' :: 'o' :: cs => based? 8 cs
  | '0' :: 'b' :: cs => based? 2 cs
  | '+' :: cs => decimal? false cs
  | '-' :: cs => decimal? true cs
  | cs => decimal? false cs

end SqlCatalog.Toml.Number
