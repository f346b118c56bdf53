import Mathlib.Algebra.Ring.Int.Defs
import Mathlib.Algebra.Ring.Nat
import SqlCatalog.Wire.Encode
/-!
# Which values go into which types

`Fits v t` is the table of conversions: a value other than null can be encoded
for a type exactly if its row is there. `Entry v t bytes` says what is written
then. Encoding follows the table whatever the buffer holds: it appends the bytes
of the entry, or it fails and leaves the buffer as it is (`encode_follows_table`).
The failure is about the type only if the type takes no value of that kind; else
it is about this one integer.
-/
namespace SqlCatalog.Wire

/-- The types that take text. -/
inductive Textual : ParamType → Prop
  | builtin {b : Builtin} (h : b ∈ [.text, .varchar, .bpchar, .name, .unknown]) :
      Textual (.builtin b)
  | named {t : ParamType} (h : t.name ∈ ["citext", "ltree", "lquery", "ltxtquery"]) : Textual t

theorem isTextual_iff {t : ParamType} : t.isTextual = true ↔ Textual t := by
  constructor
  · intro h
    simp only [ParamType.isTextual, ParamType.isVersioned, Bool.or_eq_true, beq_iff_eq] at h
    rcases h with (((((rfl | rfl) | rfl) | rfl) | rfl) | h) | ((h | h) | h)
    · exact .builtin (by decide)
    · exact .builtin (by decide)
    · exact .builtin (by decide)
    · exact .builtin (by decide)
    · exact .builtin (by decide)
    all_goals exact .named (by simp [h])
  · intro h
    cases h with
    | builtin h =>
      simp only [List.mem_cons, List.not_mem_nil, or_false] at h
      rcases h with rfl | rfl | rfl | rfl | rfl <;> rfl
    | named h =>
      simp only [List.mem_cons, List.not_mem_nil, or_false] at h
      rcases h with h | h | h | h <;> simp [ParamType.isTextual, ParamType.isVersioned, h]

/-- The integer types, by the number of their bytes. -/
inductive Whole : ParamType → Nat → Prop
  | int2 : Whole (.builtin .int2) 2
  | int4 : Whole (.builtin .int4) 4
  | int8 : Whole (.builtin .int8) 8

/-- The conversions that are made. Null goes into every type, and is not in the table. -/
def Fits : Value → ParamType → Prop
  | .null, _ => True
  | .bool _, t =>
    t = .builtin .bool ∨ t = .builtin .int2 ∨ t = .builtin .int4 ∨ t = .builtin .int8 ∨ Textual t
  | .int n, t =>
    Textual t ∨ t = .builtin .int8 ∨
      (t = .builtin .int2 ∧ -2 ^ 15 ≤ n.toInt ∧ n.toInt < 2 ^ 15) ∨
      (t = .builtin .int4 ∧ -2 ^ 31 ≤ n.toInt ∧ n.toInt < 2 ^ 31) ∨
      (t = .builtin .bool ∧ (n = 0 ∨ n = 1)) ∨
      (t = .builtin .float4 ∧ n.toInt.natAbs ≤ 2 ^ 24) ∨
      (t = .builtin .float8 ∧ n.toInt.natAbs ≤ 2 ^ 53)
  | .float _, t => t = .builtin .float4 ∨ t = .builtin .float8 ∨ Textual t
  | .text _, t => Textual t
  | .bytes _, t => t = .builtin .bytea
  | .json _, t => t = .builtin .json ∨ t = .builtin .jsonb

/-! ## What is written -/

/-- A value as the text that stands for it. -/
def spelling : Value → Option String
  | .bool b => some (if b then "true" else "false")
  | .int n => some (toString n.toInt)
  | .float x => some (Value.number.write x)
  | .text s => some s
  | _ => none

/-- What stands before the text in a type. -/
def versionMark (t : ParamType) : List UInt8 := if t.isVersioned then [1] else []

/-- The bytes of a value in a type. Numbers have their highest byte first. -/
inductive Entry : Value → ParamType → List UInt8 → Prop
  | bool (b : Bool) : Entry (.bool b) (.builtin .bool) [if b then 1 else 0]
  | boolWhole {t : ParamType} {width : Nat} (b : Bool) (ht : Whole t width) :
      Entry (.bool b) t (signed width (if b then 1 else 0))
  | whole {t : ParamType} {width : Nat} (n : Int64) (ht : Whole t width)
      (hlow : -2 ^ (8 * width - 1) ≤ n.toInt) (hhigh : n.toInt < 2 ^ (8 * width - 1)) :
      Entry (.int n) t (signed width n.toInt)
  | zero : Entry (.int 0) (.builtin .bool) [0]
  | one : Entry (.int 1) (.builtin .bool) [1]
  | wholeSingle (n : Int64) (hn : n.toInt.natAbs ≤ 2 ^ 24) :
      Entry (.int n) (.builtin .float4) (bigEndian 4 (Binary32.ofInt n.toInt).bits.toNat)
  | wholeDouble (n : Int64) (hn : n.toInt.natAbs ≤ 2 ^ 53) :
      Entry (.int n) (.builtin .float8) (bigEndian 8 (Binary64.ofInt n.toInt).bits.toNat)
  /-- What is not a number goes with its sign and the highest places of its fraction. -/
  | single (x : Binary64) :
      Entry (.float x) (.builtin .float4) (bigEndian 4 x.toSingle.bits.toNat)
  | double (x : Binary64) : Entry (.float x) (.builtin .float8) (bigEndian 8 x.bits.toNat)
  | text {v : Value} {t : ParamType} {s : String} (hs : spelling v = some s) (ht : Textual t) :
      Entry v t (versionMark t ++ Text.utf8 s)
  | bytes (b : List UInt8) : Entry (.bytes b) (.builtin .bytea) b
  | json (j : Json) : Entry (.json j) (.builtin .json) (Text.utf8 j.render)
  | jsonb (j : Json) : Entry (.json j) (.builtin .jsonb) (1 :: Text.utf8 j.render)

/-- Every conversion of the table has its bytes. -/
theorem exists_entry {v : Value} {t : ParamType} (hv : v ≠ .null) (h : Fits v t) :
    ∃ bytes, Entry v t bytes := by
  cases v with
  | null => exact absurd rfl hv
  | bool b =>
    rcases h with rfl | rfl | rfl | rfl | ht
    · exact ⟨_, .bool b⟩
    · exact ⟨_, .boolWhole b .int2⟩
    · exact ⟨_, .boolWhole b .int4⟩
    · exact ⟨_, .boolWhole b .int8⟩
    · exact ⟨_, .text rfl ht⟩
  | int n =>
    rcases h with ht | rfl | ⟨rfl, hlow, hhigh⟩ | ⟨rfl, hlow, hhigh⟩ | ⟨rfl, rfl | rfl⟩ |
      ⟨rfl, hn⟩ | ⟨rfl, hn⟩
    · exact ⟨_, .text rfl ht⟩
    · exact ⟨_, .whole n .int8 n.le_toInt n.toInt_lt⟩
    · exact ⟨_, .whole n .int2 hlow hhigh⟩
    · exact ⟨_, .whole n .int4 hlow hhigh⟩
    · exact ⟨_, .zero⟩
    · exact ⟨_, .one⟩
    · exact ⟨_, .wholeSingle n hn⟩
    · exact ⟨_, .wholeDouble n hn⟩
  | float x =>
    rcases h with rfl | rfl | ht
    · exact ⟨_, .single x⟩
    · exact ⟨_, .double x⟩
    · exact ⟨_, .text rfl ht⟩
  | text s => exact ⟨_, .text rfl h⟩
  | bytes b =>
    obtain rfl : t = .builtin .bytea := h
    exact ⟨_, .bytes b⟩
  | json j =>
    rcases h with rfl | rfl
    · exact ⟨_, .json j⟩
    · exact ⟨_, .jsonb j⟩

/-! ## What encoding does -/

theorem putText_eq (s : String) (t : ParamType) (out : Buffer) :
    putText s t out = put (versionMark t ++ Text.utf8 s) out := by
  unfold putText versionMark put
  split <;> simp

theorem isExact_single_iff {n : Int64} :
    isExact .single n = true ↔ n.toInt.natAbs ≤ 2 ^ 24 := decide_eq_true_iff

theorem isExact_double_iff {n : Int64} :
    isExact .double n = true ↔ n.toInt.natAbs ≤ 2 ^ 53 := decide_eq_true_iff

/-- Half of what fits into the bytes of an integer type. -/
theorem half_range {t : ParamType} {width : Nat} (h : Whole t width) :
    ((Nat.pow 256 width : Nat) : Int) / 2 = 2 ^ (8 * width - 1) := by
  cases h <;> decide

theorem putSigned_of_fits {t : ParamType} {width : Nat} (h : Whole t width) {n : Int}
    (hlow : -2 ^ (8 * width - 1) ≤ n) (hhigh : n < 2 ^ (8 * width - 1)) (out : Buffer) :
    putSigned width n out = put (signed width n) out := by
  unfold putSigned
  simp only [half_range h]
  rw [if_neg (by omega), if_neg (by omega)]

section

variable {t : ParamType} (out : Buffer)

/-- Text is only tried after the types that have a form of their own, and none
of those takes text. -/
theorem encodeInt_of_textual (n : Int64) (h : Textual t) :
    encodeInt n t out = putText (toString n.toInt) t out := by
  have ht := isTextual_iff.2 h
  fun_cases encodeInt n t out
  case case11 => rfl
  case case12 hn => exact absurd ht hn
  all_goals exact absurd ht (by decide)

theorem encodeBool_of_textual (b : Bool) (h : Textual t) :
    encodeBool b t out = putText (if b then "true" else "false") t out := by
  have ht := isTextual_iff.2 h
  fun_cases encodeBool b t out
  case case5 => rfl
  case case6 hn => exact absurd ht hn
  all_goals exact absurd ht (by decide)

theorem encodeFloat_of_textual (x : Binary64) (h : Textual t) :
    encodeFloat x t out = putText (Value.number.write x) t out := by
  have ht := isTextual_iff.2 h
  fun_cases encodeFloat x t out
  case case3 => rfl
  case case4 hn => exact absurd ht hn
  all_goals exact absurd ht (by decide)

theorem encode_of_spelling {v : Value} {s : String} (hs : spelling v = some s) (h : Textual t) :
    encode v t out = putText s t out := by
  cases v with
  | bool b =>
    cases hs
    exact encodeBool_of_textual out b h
  | int n =>
    cases hs
    exact encodeInt_of_textual out n h
  | float x =>
    cases hs
    exact encodeFloat_of_textual out x h
  | text s' =>
    cases hs
    simp only [encode, if_pos (isTextual_iff.2 h)]
  | null | bytes | json => cases hs

/-- The bytes of an entry are appended, whatever the buffer holds. -/
theorem encode_of_entry {v : Value} {bytes : List UInt8} (h : Entry v t bytes) :
    encode v t out = (.ok .value, out ++ bytes) := by
  cases h with
  | bool b => rfl
  | boolWhole b ht =>
    have hfits := putSigned_of_fits ht (n := if b then 1 else 0)
    cases ht <;> cases b <;> exact hfits (by decide) (by decide) out
  | whole n ht hlow hhigh =>
    have hfits := putSigned_of_fits ht hlow hhigh out
    cases ht <;> exact hfits
  | zero => rfl
  | one => rfl
  | wholeSingle n hn =>
    simp only [encode, encodeInt, if_pos (isExact_single_iff.2 hn)]
    rfl
  | wholeDouble n hn =>
    simp only [encode, encodeInt, if_pos (isExact_double_iff.2 hn)]
    rfl
  | single x => rfl
  | double x => rfl
  | text hs ht => rw [encode_of_spelling out hs ht, putText_eq, put]
  | bytes b => rfl
  | json j => rfl
  | jsonb j => simp [encode, put]

end

/-! ## What is refused -/

/-- An attempt that failed and left the buffer alone. The failure is about the type
exactly if the type takes no value of this kind. -/
def Refused (v : Value) (t : ParamType) (out : Buffer) (a : Attempt) : Prop :=
  ∃ e, a = (.error e, out) ∧
    ((∃ w u, e = .wrongType w u) ↔ ∀ w : Value, w.kind = v.kind → ¬Fits w t)

section

variable {v : Value} {t : ParamType} {out : Buffer}

theorem refused_wrongType (h : ∀ w : Value, w.kind = v.kind → ¬Fits w t) :
    Refused v t out (refuse (.wrongType v t) out) :=
  ⟨_, rfl, fun _ => h, fun _ => ⟨v, t, rfl⟩⟩

/-- A failure that is about this value: the type takes another one of its kind. -/
theorem refused_value {e : EncodeError} (he : ∀ w u, e ≠ .wrongType w u) {w : Value}
    (hkind : w.kind = v.kind) (hw : Fits w t) : Refused v t out (refuse e out) :=
  ⟨e, rfl, fun ⟨w, u, hwu⟩ => absurd hwu (he w u), fun hnone => absurd hw (hnone w hkind)⟩

theorem refused_putSigned {width : Nat} (ht : Whole t width) {n : Int}
    (hn : ¬(-2 ^ (8 * width - 1) ≤ n ∧ n < 2 ^ (8 * width - 1))) {w : Value}
    (hkind : w.kind = v.kind) (hw : Fits w t) : Refused v t out (putSigned width n out) := by
  unfold putSigned
  simp only [half_range ht]
  by_cases hhigh : (2 : Int) ^ (8 * width - 1) ≤ n
  · rw [if_pos hhigh]
    exact refused_value nofun hkind hw
  · rw [if_neg hhigh, if_pos (by omega)]
    exact refused_value nofun hkind hw

end

/-- For every kind but integers the table asks for no more than the kind. -/
theorem fits_of_kind {v w : Value} {t : ParamType} (hv : v.kind ≠ "int")
    (hkind : w.kind = v.kind) (hw : Fits w t) : Fits v t := by
  cases v <;> cases w <;> first
    | exact hw
    | exact absurd rfl hv
    | exact absurd hkind (by simp [Value.kind])

theorem eq_int_of_kind {w : Value} (h : w.kind = "int") : ∃ n, w = .int n := by
  cases w with
  | int n => exact ⟨n, rfl⟩
  | _ => exact absurd h (by simp [Value.kind])

theorem refused_kind {v : Value} {t : ParamType} {out : Buffer} (hv : v.kind ≠ "int")
    (h : ¬Fits v t) : Refused v t out (refuse (.wrongType v t) out) :=
  refused_wrongType fun _ hkind hw => h (fits_of_kind hv hkind hw)

theorem refused_bool {b : Bool} {t : ParamType} (h : ¬Fits (.bool b) t) (out : Buffer) :
    Refused (.bool b) t out (encodeBool b t out) := by
  fun_cases encodeBool b t out
  case case1 => exact absurd (.inl rfl) h
  case case2 => exact absurd (.inr (.inl rfl)) h
  case case3 => exact absurd (.inr (.inr (.inl rfl))) h
  case case4 => exact absurd (.inr (.inr (.inr (.inl rfl)))) h
  case case5 ht => exact absurd (.inr (.inr (.inr (.inr (isTextual_iff.1 ht))))) h
  case case6 => exact refused_kind (by simp [Value.kind]) h

theorem refused_float {x : Binary64} {t : ParamType} (h : ¬Fits (.float x) t) (out : Buffer) :
    Refused (.float x) t out (encodeFloat x t out) := by
  fun_cases encodeFloat x t out
  case case1 => exact absurd (.inr (.inl rfl)) h
  case case2 => exact absurd (.inl rfl) h
  case case3 ht => exact absurd (.inr (.inr (isTextual_iff.1 ht))) h
  case case4 => exact refused_kind (by simp [Value.kind]) h

/-- Zero goes into every type that takes integers. -/
theorem refused_int {n : Int64} {t : ParamType} (h : ¬Fits (.int n) t) (out : Buffer) :
    Refused (.int n) t out (encodeInt n t out) := by
  have hzero : (Value.int 0).kind = (Value.int n).kind := rfl
  fun_cases encodeInt n t out
  case case1 =>
    exact refused_putSigned .int2 (fun hn => h (.inr (.inr (.inl ⟨rfl, hn⟩)))) hzero
      (by simp [Fits])
  case case2 =>
    exact refused_putSigned .int4 (fun hn => h (.inr (.inr (.inr (.inl ⟨rfl, hn⟩))))) hzero
      (by simp [Fits])
  case case3 => exact absurd (.inr (.inl rfl)) h
  case case4 hn =>
    exact absurd (.inr (.inr (.inr (.inr (.inr (.inl ⟨rfl, isExact_single_iff.1 hn⟩)))))) h
  case case5 => exact refused_value nofun hzero (by simp [Fits])
  case case6 hn =>
    exact absurd (.inr (.inr (.inr (.inr (.inr (.inr ⟨rfl, isExact_double_iff.1 hn⟩)))))) h
  case case7 => exact refused_value nofun hzero (by simp [Fits])
  case case8 hn => exact absurd (by simp [Fits, hn]) h
  case case9 hn => exact absurd (by simp [Fits, hn]) h
  case case10 => exact refused_value nofun hzero (by simp [Fits])
  case case11 ht => exact absurd (.inl (isTextual_iff.1 ht)) h
  case case12 h2 h4 h8 hsingle hdouble hbool ht =>
    refine refused_wrongType fun w hkind hw => ?_
    obtain ⟨m, rfl⟩ := eq_int_of_kind hkind
    rcases hw with hw | hw | ⟨hw, -⟩ | ⟨hw, -⟩ | ⟨hw, -⟩ | ⟨hw, -⟩ | ⟨hw, -⟩
    · exact ht (isTextual_iff.2 hw)
    · exact h8 hw
    · exact h2 hw
    · exact h4 hw
    · exact hbool hw
    · exact hsingle hw
    · exact hdouble hw

theorem refused_encode {v : Value} {t : ParamType} (hv : v ≠ .null) (h : ¬Fits v t)
    (out : Buffer) : Refused v t out (encode v t out) := by
  cases v with
  | null => exact absurd rfl hv
  | bool b => exact refused_bool h out
  | int n => exact refused_int h out
  | float x => exact refused_float h out
  | text s =>
    simp only [encode]
    rw [if_neg (fun ht => h (isTextual_iff.1 ht))]
    exact refused_kind (by simp [Value.kind]) h
  | bytes b =>
    have ht : t ≠ .builtin .bytea := h
    simp only [encode]
    rw [if_neg ht]
    exact refused_kind (by simp [Value.kind]) h
  | json j =>
    simp only [encode]
    rw [if_neg (fun ht => h (.inl ht)), if_neg (fun ht => h (.inr ht))]
    exact refused_kind (by simp [Value.kind]) h

/-- Encoding follows the table of conversions. Null goes into every type and
leaves no bytes. Any other value is encoded exactly if it fits, and then its
bytes stand behind what the buffer held; else the buffer is as before, and the
failure is about the type exactly if no value of that kind fits. -/
theorem encode_follows_table (v : Value) (t : ParamType) :
    (v = .null → ∀ out, encode v t out = (.ok .null, out)) ∧
    (v ≠ .null → Fits v t → ∃ bytes, Entry v t bytes ∧
      ∀ out, encode v t out = (.ok .value, out ++ bytes)) ∧
    (v ≠ .null → ¬Fits v t → ∀ out, ∃ e, encode v t out = (.error e, out) ∧
      ((∃ w u, e = .wrongType w u) ↔ ∀ w : Value, w.kind = v.kind → ¬Fits w t)) := by
  refine ⟨?_, fun hv h => ?_, fun hv h out => refused_encode hv h out⟩
  · rintro rfl out
    rfl
  · obtain ⟨bytes, hentry⟩ := exists_entry hv h
    exact ⟨bytes, hentry, fun out => encode_of_entry out hentry⟩

-- a defined type is told by its name alone, and the name of a built-in type is of no use to it
example : Textual (.defined "ltree" 25 "ext") ∧ ¬Textual (.defined "text" 25 "pg_catalog") := by
  simp only [← isTextual_iff]
  decide

end SqlCatalog.Wire
