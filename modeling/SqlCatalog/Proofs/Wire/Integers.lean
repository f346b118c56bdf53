import SqlCatalog.Decimal.Digits
import SqlCatalog.Proofs.Binary.Words
import SqlCatalog.Proofs.Wire.Table
/-!
# Integers arrive as they were sent

`readNumber` is the server's side: the number that some bytes are in a type. It
knows nothing of how they were written. Whatever type an integer goes into, the
server reads that integer (`integers_arrive`); so within one type different
integers have different bytes.
-/
namespace SqlCatalog.Wire

/-! ## The server's side -/

/-- The natural number of some bytes, the highest first. -/
def readUnsigned (bytes : List UInt8) : Nat := bytes.foldl (fun n b => n * 256 + b.toNat) 0

/-- The integer of some bytes in two's complement, the highest first. -/
def readSigned (bytes : List UInt8) : Int :=
  if 2 * readUnsigned bytes < 256 ^ bytes.length then readUnsigned bytes
  else readUnsigned bytes - (256 ^ bytes.length : Nat)

/-- The text of some bytes in a type, behind the version mark of the type. -/
def readText (t : ParamType) (bytes : List UInt8) : Option String :=
  if t.isVersioned then
    match bytes with
    | 1 :: rest => String.fromUTF8? ⟨rest.toArray⟩
    | _ => none
  else String.fromUTF8? ⟨bytes.toArray⟩

/-- The number of some bytes in a type. A boolean counts as zero or one. -/
def readNumber (t : ParamType) (bytes : List UInt8) : Option ℚ :=
  match t with
  | .builtin .int2 => if bytes.length = 2 then some (readSigned bytes) else none
  | .builtin .int4 => if bytes.length = 4 then some (readSigned bytes) else none
  | .builtin .int8 => if bytes.length = 8 then some (readSigned bytes) else none
  | .builtin .float4 =>
    if bytes.length = 4 then (BinaryFormat.single.decode (readUnsigned bytes)).value else none
  | .builtin .float8 =>
    if bytes.length = 8 then (BinaryFormat.double.decode (readUnsigned bytes)).value else none
  | .builtin .bool =>
    match bytes with
    | [0] => some 0
    | [1] => some 1
    | _ => none
  | t =>
    if t.isTextual then
      ((readText t bytes).bind fun s => Decimal.integer? s.toList).map Int.cast
    else none

/-! ## Bytes of numbers -/

theorem length_bigEndian (width n : Nat) : (bigEndian width n).length = width := by
  induction width generalizing n with
  | zero => rfl
  | succ width ih => rw [bigEndian, List.length_append, ih, List.length_singleton]

theorem readUnsigned_bigEndian (width : Nat) {n : Nat} (h : n < 256 ^ width) :
    readUnsigned (bigEndian width n) = n := by
  induction width generalizing n with
  | zero =>
    obtain rfl : n = 0 := by simpa using h
    rfl
  | succ width ih =>
    have hdiv : n / 256 < 256 ^ width := by
      rw [Nat.div_lt_iff_lt_mul (by decide), ← Nat.pow_succ]
      exact h
    have hlow : (n % 256).toUInt8.toNat = n % 256 := Nat.mod_eq_of_lt (Nat.mod_lt _ (by decide))
    have hconcat : readUnsigned (bigEndian width (n / 256) ++ [(n % 256).toUInt8]) =
        readUnsigned (bigEndian width (n / 256)) * 256 + (n % 256).toUInt8.toNat :=
      List.foldl_concat ..
    rw [bigEndian, hconcat, ih hdiv, hlow]
    exact Nat.div_add_mod' n 256

theorem length_signed (width : Nat) (n : Int) : (signed width n).length = width :=
  length_bigEndian _ _

/-- In two's complement a negative number stands above all the others. -/
theorem readUnsigned_signed (width : Nat) {n : Int} (hlow : -(256 ^ width : Nat) ≤ n)
    (hhigh : n < (256 ^ width : Nat)) :
    (readUnsigned (signed width n) : Int) = if n < 0 then n + (256 ^ width : Nat) else n := by
  have hmod : n % (256 ^ width : Nat) = if n < 0 then n + (256 ^ width : Nat) else n := by
    split_ifs with hneg
    · rw [← Int.add_emod_right, Int.emod_eq_of_lt (by omega) (by omega)]
    · exact Int.emod_eq_of_lt (by omega) hhigh
  have hnonneg : 0 ≤ n % (256 ^ width : Nat) := by
    rw [hmod]
    split_ifs <;> omega
  have hlt : (n % (256 ^ width : Nat)).toNat < 256 ^ width := by
    rw [Int.toNat_lt hnonneg, hmod]
    split_ifs <;> omega
  have hread : readUnsigned (signed width n) = (n % (256 ^ width : Nat)).toNat :=
    readUnsigned_bigEndian width hlt
  rw [hread, Int.toNat_of_nonneg hnonneg, hmod]

theorem readSigned_signed {t : ParamType} {width : Nat} (ht : Whole t width) {n : Int}
    (hlow : -2 ^ (8 * width - 1) ≤ n) (hhigh : n < 2 ^ (8 * width - 1)) :
    readSigned (signed width n) = n := by
  have hhalf : ((256 ^ width : Nat) : Int) = 2 * 2 ^ (8 * width - 1) := by
    cases ht <;> rfl
  have hread := readUnsigned_signed width (n := n) (by omega) (by omega)
  unfold readSigned
  rw [length_signed]
  split_ifs at hread with hneg
  · rw [if_neg (by omega)]
    omega
  · rw [if_pos (by omega)]
    exact hread

/-! ## Text -/

theorem fromUTF8?_utf8 (s : String) : String.fromUTF8? ⟨(Text.utf8 s).toArray⟩ = some s := by
  have hbytes : (⟨(Text.utf8 s).toArray⟩ : ByteArray) = s.toUTF8 := rfl
  rw [hbytes]
  exact dif_pos s.isValidUTF8

theorem readText_versionMark (t : ParamType) (s : String) :
    readText t (versionMark t ++ Text.utf8 s) = some s := by
  unfold readText versionMark
  split_ifs
  · exact fromUTF8?_utf8 s
  · exact fromUTF8?_utf8 s

/-! ## Integers arrive -/

theorem readNumber_of_textual {t : ParamType} (h : Textual t) (bytes : List UInt8) :
    readNumber t bytes =
      ((readText t bytes).bind fun s => Decimal.integer? s.toList).map Int.cast := by
  have ht := isTextual_iff.2 h
  unfold readNumber
  split
  case h_7 => rw [if_pos ht]
  all_goals exact absurd ht (by decide)

theorem readNumber_of_entry {n : Int64} {t : ParamType} {bytes : List UInt8}
    (h : Entry (.int n) t bytes) : readNumber t bytes = some (n.toInt : ℚ) := by
  cases h with
  | @whole _ width _ ht hlow hhigh =>
    have hread := readSigned_signed ht hlow hhigh
    have hlength := length_signed width n.toInt
    cases ht <;> simp only [readNumber, hlength, hread, if_true]
  | zero => rfl
  | one => rfl
  | wholeSingle _ hn =>
    have hread := readUnsigned_bigEndian 4 (Binary32.ofInt n.toInt).bits.toNat_lt
    simp only [readNumber, length_bigEndian, hread, if_true]
    exact Binary32.value_ofInt hn
  | wholeDouble _ hn =>
    have hread := readUnsigned_bigEndian 8 (Binary64.ofInt n.toInt).bits.toNat_lt
    simp only [readNumber, length_bigEndian, hread, if_true]
    exact Binary64.value_ofInt hn
  | text hs ht =>
    obtain rfl := Option.some.inj hs
    rw [readNumber_of_textual ht, readText_versionMark, Option.bind_some, Decimal.integer?_toString]
    rfl

/-- Encoding an integer succeeds by an entry of the table. -/
theorem entry_of_encode {n : Int64} {t : ParamType} {w : Written} {out after : Buffer}
    (h : encode (.int n) t out = (.ok w, after)) :
    ∃ bytes, Entry (.int n) t bytes ∧ w = .value ∧ after = out ++ bytes := by
  have hnull : Value.int n ≠ .null := nofun
  by_cases hfits : Fits (.int n) t
  · obtain ⟨bytes, hentry⟩ := exists_entry hnull hfits
    obtain ⟨hw, hafter⟩ := Prod.mk.inj ((encode_of_entry out hentry).symm.trans h)
    exact ⟨bytes, hentry, (Except.ok.inj hw).symm, hafter.symm⟩
  · obtain ⟨e, herror, -⟩ := refused_encode hnull hfits out
    cases (Prod.mk.inj (herror.symm.trans h)).1

/-- Whatever type an integer is encoded for, the server reads that integer from the
bytes that were appended. So within one type no two integers have the same bytes. -/
theorem integers_arrive (t : ParamType) :
    (∀ (n : Int64) (w : Written) (out after : Buffer), encode (.int n) t out = (.ok w, after) →
      ∃ bytes, w = .value ∧ after = out ++ bytes ∧ readNumber t bytes = some (n.toInt : ℚ)) ∧
    ∀ (n m : Int64) (w u : Written) (out other bytes : Buffer),
      encode (.int n) t out = (.ok w, out ++ bytes) →
      encode (.int m) t other = (.ok u, other ++ bytes) → n = m := by
  constructor
  · intro n w out after h
    obtain ⟨bytes, hentry, hw, hafter⟩ := entry_of_encode h
    exact ⟨bytes, hw, hafter, readNumber_of_entry hentry⟩
  · intro n m w u out other bytes hn hm
    obtain ⟨bytes', hentry, -, hbytes⟩ := entry_of_encode hn
    obtain rfl := List.append_cancel_left hbytes
    obtain ⟨bytes', hentry', -, hbytes'⟩ := entry_of_encode hm
    obtain rfl := List.append_cancel_left hbytes'
    have hread := (readNumber_of_entry hentry).symm.trans (readNumber_of_entry hentry')
    exact Int64.toInt_inj.1 (Int.cast_injective (Option.some.inj hread))

-- the last integer that a single holds, and the mark of a versioned type
theorem integers_arrive_edges :
    (encode (.int (-16777216)) (.builtin .float4) [] = (.ok .value, [0xcb, 0x80, 0, 0]) ∧
      readNumber (.builtin .float4) [0xcb, 0x80, 0, 0] = some (-16777216)) ∧
    encode (.int (-7)) (.defined "ltree" 16400 "public") [] = (.ok .value, [1, 0x2d, 0x37]) ∧
      readNumber (.defined "ltree" 16400 "public") [1, 0x2d, 0x37] = some (-7) := by
  have hsingle : encode (.int (-16777216)) (.builtin .float4) [] =
      (.ok .value, [0xcb, 0x80, 0, 0]) := rfl
  have htext : encode (.int (-7)) (.defined "ltree" 16400 "public") [] =
      (.ok .value, [1, 0x2d, 0x37]) := rfl
  refine ⟨⟨hsingle, ?_⟩, htext, ?_⟩
  · obtain ⟨bytes, -, hbytes, hread⟩ :=
      (integers_arrive (.builtin .float4)).1 (-16777216) .value [] _ hsingle
    obtain rfl := hbytes
    exact hread
  · obtain ⟨bytes, -, hbytes, hread⟩ :=
      (integers_arrive (.defined "ltree" 16400 "public")).1 (-7) .value [] _ htext
    obtain rfl := hbytes
    exact hread

end SqlCatalog.Wire
