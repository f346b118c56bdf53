import SqlCatalog.Value.Basic
import SqlCatalog.Wire.ParamType
/-!
# Encoding values for Postgres

The binary form of a value for the type that the server expects. Conversions
that lose nothing are made, with one exception: a float for `float4` is rounded.
All else fails. Encoding appends to a buffer, which a failure leaves alone.

Which encoder a value goes to, and when it is refused, is decided here. The encoders
themselves (`putSigned`, `putBool`, `putText`, and the bytes of floats and JSON) are
those of the client library: they are written out after the documented binary formats
and are assumed to be what the library sends. Bounds on integers are those of the
conversion to the narrower type, with its messages.
-/
namespace SqlCatalog.Wire

/-- Why a value cannot be encoded. -/
inductive EncodeError
  /-- No value of this kind goes into the type. -/
  | wrongType (value : Value) (type : ParamType)
  | tooLarge
  | tooSmall
  /-- The integer has no exact float of this type. -/
  | inexact (n : Int64) (type : ParamType)
  | notBoolean (n : Int64)

namespace EncodeError

/-- The name of a value's own type in messages. -/
def typeOf : Value → String
  | .null => "null"
  | .bool _ => "bool"
  | .int _ => "i64"
  | .float _ => "f64"
  | .text _ => "&str"
  | .bytes _ => "&[u8]"
  | .json _ => "&serde_json::value::Value"

def message : EncodeError → String
  | wrongType v t =>
    s!"cannot convert between the Rust type `{typeOf v}` and the Postgres type `{t.display}`"
  | tooLarge => "number too large to fit in target type"
  | tooSmall => "number too small to fit in target type"
  | inexact n t => s!"integer {n.toInt} is not exactly representable as {t.display}"
  | notBoolean n => s!"integer {n.toInt} is not a boolean"

end EncodeError

/-- What was written. -/
inductive Written
  /-- The value is SQL's null, and nothing was written. -/
  | null
  | value
deriving DecidableEq

/-- Bytes to be sent. -/
abbrev Buffer := List UInt8

/-- An attempt to write: what was written, and the buffer behind it. -/
abbrev Attempt := Except EncodeError Written × Buffer

/-- The low `width` bytes of `n`, the highest first. -/
def bigEndian : Nat → Nat → List UInt8
  | 0, _ => []
  | width + 1, n => bigEndian width (n / 256) ++ [(n % 256).toUInt8]

/-- The `width` bytes of an integer in two's complement. -/
def signed (width : Nat) (n : Int) : List UInt8 :=
  bigEndian width (n % Nat.pow 256 width).toNat

def put (bytes : List UInt8) (out : Buffer) : Attempt := (.ok .value, out ++ bytes)

def refuse (e : EncodeError) (out : Buffer) : Attempt := (.error e, out)

/-- Write text, behind a version byte where the type has one. -/
def putText (s : String) (t : ParamType) (out : Buffer) : Attempt :=
  put (Text.utf8 s) (if t.isVersioned then out ++ [1] else out)

def putBool (b : Bool) (out : Buffer) : Attempt := put [if b then 1 else 0] out

/-- Write an integer in two's complement, if it fits into `width` bytes. -/
def putSigned (width : Nat) (n : Int) (out : Buffer) : Attempt :=
  let half : Int := Nat.pow 256 width / 2
  if half ≤ n then refuse .tooLarge out
  else if n < -half then refuse .tooSmall out
  else put (signed width n) out

/-- Is there a float with `precision` bits for every integer up to this one? -/
def isExact (f : BinaryFormat) (n : Int64) : Bool := n.toInt.natAbs ≤ Nat.pow 2 f.precision

def encodeInt (n : Int64) (t : ParamType) (out : Buffer) : Attempt :=
  match t with
  | .builtin .int2 => putSigned 2 n.toInt out
  | .builtin .int4 => putSigned 4 n.toInt out
  | .builtin .int8 => putSigned 8 n.toInt out
  | .builtin .float4 =>
    if isExact .single n then put (bigEndian 4 (Binary32.ofInt n.toInt).bits.toNat) out
    else refuse (.inexact n t) out
  | .builtin .float8 =>
    if isExact .double n then put (bigEndian 8 (Binary64.ofInt n.toInt).bits.toNat) out
    else refuse (.inexact n t) out
  | .builtin .bool =>
    if n = 0 then putBool false out
    else if n = 1 then putBool true out
    else refuse (.notBoolean n) out
  | t =>
    if t.isTextual then putText (toString n.toInt) t out
    else refuse (.wrongType (.int n) t) out

def encodeBool (b : Bool) (t : ParamType) (out : Buffer) : Attempt :=
  let n : Int := if b then 1 else 0
  match t with
  | .builtin .bool => putBool b out
  | .builtin .int2 => putSigned 2 n out
  | .builtin .int4 => putSigned 4 n out
  | .builtin .int8 => putSigned 8 n out
  | t =>
    if t.isTextual then putText (if b then "true" else "false") t out
    else refuse (.wrongType (.bool b) t) out

def encodeFloat (x : Binary64) (t : ParamType) (out : Buffer) : Attempt :=
  match t with
  | .builtin .float8 => put (bigEndian 8 x.bits.toNat) out
  | .builtin .float4 => put (bigEndian 4 x.toSingle.bits.toNat) out
  | t =>
    if t.isTextual then putText (Value.number.write x) t out
    else refuse (.wrongType (.float x) t) out

/-- Encode a value for a type, behind what is in the buffer. -/
def encode (v : Value) (t : ParamType) (out : Buffer) : Attempt :=
  match v with
  | .null => (.ok .null, out)
  | .bool b => encodeBool b t out
  | .int n => encodeInt n t out
  | .float x => encodeFloat x t out
  | .text s => if t.isTextual then putText s t out else refuse (.wrongType v t) out
  | .bytes b => if t = .builtin .bytea then put b out else refuse (.wrongType v t) out
  | .json j =>
    if t = .builtin .json then put (Text.utf8 j.render) out
    else if t = .builtin .jsonb then put (Text.utf8 j.render) (out ++ [1])
    else refuse (.wrongType v t) out

end SqlCatalog.Wire
