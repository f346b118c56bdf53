import SqlCatalog.Proofs.Wire.Integers
/-!
# Doubles sent as singles

A double for a `float4` parameter is narrowed, and narrowing never fails. It
goes to infinity from halfway beyond the largest single, and to zero up to half
of the least one; the server is not told in either case
(`finite_double_as_single`). What is not a number arrives as such, and nothing else
does (`nan_as_single`).
-/
namespace SqlCatalog.Wire

open BinaryFormat

/-- A double for `float4` is always sent, as the four bytes of the nearest single. -/
theorem sent_as_single (x : Binary64) (out : Buffer) :
    ∃ bytes, encode (.float x) (.builtin .float4) out = (.ok .value, out ++ bytes) ∧
      bytes.length = 4 ∧ single.decode (readUnsigned bytes) = x.toSingle.datum := by
  have hread : readUnsigned (bigEndian 4 x.toSingle.bits.toNat) = x.toSingle.bits.toNat :=
    readUnsigned_bigEndian 4 x.toSingle.bits.toNat_lt
  refine ⟨bigEndian 4 x.toSingle.bits.toNat, encode_of_entry out (.single x),
    length_bigEndian _ _, ?_⟩
  rw [hread]
  rfl

/-- What is not a number arrives as such, and no number does. -/
theorem nan_as_single (x : Binary64) (out : Buffer) :
    ∃ bytes, encode (.float x) (.builtin .float4) out = (.ok .value, out ++ bytes) ∧
      (single.decode (readUnsigned bytes) = .nan ↔ x.datum = .nan) := by
  obtain ⟨bytes, hencode, -, hdecode⟩ := sent_as_single x out
  refine ⟨bytes, hencode, ?_⟩
  rw [hdecode, Binary64.datum_toSingle_eq_nan_iff]

/-- A finite double for `float4` is always sent, as four bytes. Halfway between the
largest single and the next power of two it becomes infinite, at half of the least
single it becomes zero, and in between it becomes a number other than zero. -/
theorem finite_double_as_single {x : Binary64} {v : ℚ} (hx : x.datum.value = some v)
    (out : Buffer) :
    ∃ bytes, encode (.float x) (.builtin .float4) out = (.ok .value, out ++ bytes) ∧
      bytes.length = 4 ∧
      (2 ^ 128 - 2 ^ 103 ≤ |v| → single.decode (readUnsigned bytes) = .infinite (v < 0)) ∧
      (|v| < 2 ^ 128 - 2 ^ 103 → ∃ y : ℚ, readNumber (.builtin .float4) bytes = some y ∧
        (y = 0 ↔ |v| ≤ 2 ^ (-150 : Int))) := by
  obtain ⟨negative, m, e, hdatum, rfl⟩ := Datum.exists_finite_of_value hx
  have hnonneg : (0 : ℚ) ≤ m * 2 ^ e := by positivity
  obtain ⟨bytes, hencode, hlength, hdecode⟩ := sent_as_single x out
  rw [Binary64.datum_toSingle_of_ne_nan (by rw [hdatum]; nofun), hdatum] at hdecode
  rw [abs_withSign hnonneg, ← overflow_single]
  refine ⟨bytes, hencode, hlength, fun hover => ?_, fun hlt => ?_⟩
  · have hpos : (0 : ℚ) < m * 2 ^ e := by
      refine lt_of_lt_of_le ?_ hover
      rw [overflow_single]
      norm_num
    rw [hdecode, proper_single.decode_encode_of_overflow negative m e hover]
    simp only [withSign_neg_iff hpos, Bool.decide_eq_true]
  · obtain ⟨y, hvalue, hzero⟩ := proper_single.value_encode_of_lt negative m e hlt
    refine ⟨withSign negative y, ?_, ?_⟩
    · simp only [readNumber, hlength, if_true, hdecode, hvalue]
    · rw [withSign_eq_zero_iff, hzero]
      rfl

/-- The ties at both ends go outwards: 2^128 - 2^103 becomes infinite, 2^(-150) zero. -/
theorem finite_double_as_single_ties :
    (∃ bytes, encode (.float ⟨0x47effffff0000000⟩) (.builtin .float4) [] = (.ok .value, bytes) ∧
      single.decode (readUnsigned bytes) = .infinite false) ∧
    ∃ bytes, encode (.float ⟨0x3690000000000000⟩) (.builtin .float4) [] = (.ok .value, bytes) ∧
      readNumber (.builtin .float4) bytes = some 0 := by
  constructor
  · have hdatum : (⟨0x47effffff0000000⟩ : Binary64).datum = .finite false 0x1ffffff0000000 75 := by
      decide +kernel
    have hx := congrArg Datum.value hdatum
    obtain ⟨bytes, hencode, -, hover, -⟩ := finite_double_as_single hx []
    have hinfinite := hover (by norm_num [withSign])
    rw [decide_eq_false (by norm_num [withSign])] at hinfinite
    exact ⟨bytes, hencode, hinfinite⟩
  · have hdatum : (⟨0x3690000000000000⟩ : Binary64).datum = .finite false (2 ^ 52) (-202) := by
      decide +kernel
    have hx := congrArg Datum.value hdatum
    obtain ⟨bytes, hencode, -, -, hlt⟩ := finite_double_as_single hx []
    obtain ⟨y, hread, hzero⟩ := hlt (by norm_num [withSign])
    rw [hzero.2 (by norm_num [withSign])] at hread
    exact ⟨bytes, hencode, hread⟩

/-- Two finite doubles other than zero that are sent, 10^300 and 2^(-1022): one does not
arrive as a number, the other one arrives as zero. -/
theorem finite_double_lost :
    ((⟨0x7e37e43c8800759c⟩ : Binary64).datum = .finite false 0x17e43c8800759c 944 ∧
      encode (.float ⟨0x7e37e43c8800759c⟩) (.builtin .float4) [] =
        (.ok .value, [0x7f, 0x80, 0, 0]) ∧
      single.decode (readUnsigned [0x7f, 0x80, 0, 0]) = .infinite false) ∧
    (⟨0x0010000000000000⟩ : Binary64).datum = .finite false (2 ^ 52) (-1074) ∧
      encode (.float ⟨0x0010000000000000⟩) (.builtin .float4) [] =
        (.ok .value, [0, 0, 0, 0]) ∧
      single.decode (readUnsigned [0, 0, 0, 0]) = .finite false 0 (-149) := by
  have hlarge : (⟨0x7e37e43c8800759c⟩ : Binary64).toSingle = ⟨0x7f800000⟩ := by decide +kernel
  have hsmall : (⟨0x0010000000000000⟩ : Binary64).toSingle = ⟨0⟩ := by decide +kernel
  refine ⟨⟨by decide +kernel, ?_, by decide +kernel⟩, by decide +kernel, ?_, by decide +kernel⟩
  · rw [encode_of_entry [] (.single _), hlarge]
    rfl
  · rw [encode_of_entry [] (.single _), hsmall]
    rfl

end SqlCatalog.Wire
