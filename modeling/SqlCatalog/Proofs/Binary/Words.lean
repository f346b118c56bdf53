import SqlCatalog.Proofs.Binary.Rounding
/-!
# Reading a rounded number back

A finite word denotes a rational number, its `magnitude` with a sign. The word
of a rounded number denotes the number that rounding has chosen
(`Rounds.magnitude_eq`); so a finite number is read back as infinite exactly if it
reaches the overflow, as zero exactly up to half of the least number, and as
itself if it has no more than `precision` places. From one format to another,
what is not a number stays what it is, and no number becomes that
(`Proper.decode_convert_eq_nan_iff`).
-/
namespace SqlCatalog

/-- A number with a sign in front of it. -/
def withSign (negative : Bool) (x : ℚ) : ℚ := if negative then -x else x

theorem withSign_eq_zero_iff {negative : Bool} {x : ℚ} : withSign negative x = 0 ↔ x = 0 := by
  cases negative <;> simp [withSign]

theorem abs_withSign {negative : Bool} {x : ℚ} (hx : 0 ≤ x) : |withSign negative x| = x := by
  cases negative with
  | true => exact (abs_neg x).trans (abs_of_nonneg hx)
  | false => exact abs_of_nonneg hx

theorem withSign_neg_iff {negative : Bool} {x : ℚ} (hx : 0 < x) :
    withSign negative x < 0 ↔ negative = true := by
  cases negative with
  | true => exact iff_of_true (neg_neg_of_pos hx) rfl
  | false => exact iff_of_false (not_lt.2 hx.le) nofun

theorem withSign_natAbs (n : Int) : withSign (n < 0) n.natAbs = n := by
  rw [Nat.cast_natAbs, Int.cast_abs]
  unfold withSign
  split_ifs with h
  · rw [abs_of_neg (by simpa using h), neg_neg]
  · rw [abs_of_nonneg (by simpa using h)]

namespace Datum

/-- The number that a datum is, if it is one. -/
def value : Datum → Option ℚ
  | .finite negative m e => some (withSign negative (m * 2 ^ e))
  | _ => none

theorem exists_finite_of_value {d : Datum} {x : ℚ} (h : d.value = some x) :
    ∃ negative m e, d = .finite negative m e ∧ withSign negative (m * 2 ^ e) = x := by
  cases d with
  | finite negative m e => exact ⟨negative, m, e, rfl, Option.some.inj h⟩
  | nan | infinite => cases h

end Datum

namespace BinaryFormat

variable {f : BinaryFormat}

/-! ## The fields of a word -/

/-- The sign bit of a word. -/
def sign (f : BinaryFormat) (negative : Bool) : Nat := if negative then f.signBit else 0

theorem Proper.signBit_eq (hf : f.Proper) : f.signBit = 2 ^ f.exponentBits * f.lead := by
  have hp := hf.precision
  rw [lead, ← Nat.pow_add, ← Nat.add_sub_assoc (by omega)]
  rfl

theorem Proper.infinity_lt_signBit (hf : f.Proper) : f.infinity < f.signBit := by
  rw [hf.signBit_eq]
  exact Nat.mul_lt_mul_of_pos_right (Nat.sub_lt (Nat.pow_pos (by decide)) (by decide)) f.lead_pos

theorem Proper.sign_add_lt (hf : f.Proper) (negative : Bool) {magnitude : Nat}
    (h : magnitude < f.signBit) :
    f.sign negative + magnitude < 2 ^ (f.exponentBits + f.precision) := by
  have htwice : 2 ^ (f.exponentBits + f.precision) = f.signBit + f.signBit := by
    rw [hf.signBit_eq, Nat.pow_add, ← hf.two_lead]
    ring
  have hsign : f.sign negative ≤ f.signBit := by
    cases negative
    · exact Nat.zero_le _
    · exact le_rfl
  omega

/-- The fields of a word are read one by one. -/
theorem decode_fields (negative : Bool) {magnitude : Nat} (h : magnitude < f.signBit) :
    f.decode (f.sign negative + magnitude) =
      if magnitude / f.lead = 2 ^ f.exponentBits - 1 then
        if magnitude % f.lead = 0 then .infinite negative else .nan
      else if magnitude / f.lead = 0 then .finite negative (magnitude % f.lead) f.minExponent
      else .finite negative (magnitude % f.lead + f.lead)
        (f.minExponent + (magnitude / f.lead : Nat) - 1) := by
  have hpos : 0 < f.signBit := by omega
  have hmod : (f.sign negative + magnitude) % f.signBit = magnitude := by
    cases negative with
    | true => exact (Nat.add_mod_left _ _).trans (Nat.mod_eq_of_lt h)
    | false => exact (congrArg (· % _) (Nat.zero_add _)).trans (Nat.mod_eq_of_lt h)
  have hdiv : ((f.sign negative + magnitude) / f.signBit % 2 == 1) = negative := by
    cases negative with
    | true =>
      show ((f.signBit + magnitude) / f.signBit % 2 == 1) = true
      rw [Nat.add_div_left _ hpos, Nat.div_eq_of_lt h]
      rfl
    | false =>
      show ((0 + magnitude) / f.signBit % 2 == 1) = false
      rw [Nat.zero_add, Nat.div_eq_of_lt h]
      rfl
  unfold decode
  simp only [hmod, hdiv]
  rfl

theorem Proper.decode_infinity (hf : f.Proper) (negative : Bool) :
    f.decode (f.sign negative + f.infinity) = .infinite negative := by
  rw [decode_fields negative hf.infinity_lt_signBit]
  have hdiv : f.infinity / f.lead = 2 ^ f.exponentBits - 1 := Nat.mul_div_cancel _ f.lead_pos
  have hmod : f.infinity % f.lead = 0 := Nat.mul_mod_left _ _
  rw [if_pos hdiv, if_pos hmod]

/-! ## Magnitudes -/

/-- The number of a word below infinity. -/
def magnitude (f : BinaryFormat) (word : Nat) : ℚ :=
  if word / f.lead = 0 then word * 2 ^ f.minExponent
  else (word % f.lead + f.lead : Nat) * 2 ^ (f.minExponent + (word / f.lead : Nat) - 1)

theorem magnitude_eq_zero_iff {word : Nat} : f.magnitude word = 0 ↔ word = 0 := by
  have hpos := f.lead_pos
  unfold magnitude
  split_ifs with h
  · rw [mul_eq_zero_iff_right (by positivity)]
    exact Nat.cast_eq_zero
  · rw [mul_eq_zero_iff_right (by positivity), Nat.cast_eq_zero]
    refine iff_of_false (by omega) ?_
    rintro rfl
    exact h (Nat.zero_div _)

theorem Proper.value_decode (hf : f.Proper) (negative : Bool) {word : Nat}
    (h : word < f.infinity) :
    (f.decode (f.sign negative + word)).value = some (withSign negative (f.magnitude word)) := by
  have hlt : word / f.lead < 2 ^ f.exponentBits - 1 := (Nat.div_lt_iff_lt_mul f.lead_pos).2 h
  rw [decode_fields negative (h.trans hf.infinity_lt_signBit), if_neg hlt.ne]
  unfold magnitude
  split_ifs with hzero
  · rw [Nat.mod_eq_of_lt (Nat.lt_of_div_eq_zero f.lead_pos hzero)]
    rfl
  · rfl

/-- A carry out of the last places lands in the exponent. -/
theorem Rounds.magnitude_eq (hf : f.Proper) {v : ℚ} {j N : Nat} (h : f.Rounds v j N) :
    f.magnitude (j * f.lead + N) = N * 2 ^ (f.minExponent + j) := by
  have hpos := f.lead_pos
  have hN := h.le
  rw [← hf.two_lead] at hN
  unfold magnitude
  rcases Nat.lt_or_ge N f.lead with hlow | hlow
  · -- a subnormal number, which stands at the least place
    obtain rfl : j = 0 := h.lead_le.resolve_right (by omega)
    rw [Nat.zero_mul, Nat.zero_add, if_pos (Nat.div_eq_of_lt hlow), Nat.cast_zero, add_zero]
  obtain ⟨r, rfl⟩ := Nat.exists_eq_add_of_le hlow
  have hsucc : j * f.lead + (f.lead + r) = r + f.lead * (j + 1) := by ring
  rw [hsucc, Nat.add_mul_div_left _ _ hpos, Nat.add_mul_mod_self_left,
    if_neg (Nat.ne_of_gt (Nat.add_pos_right _ (Nat.succ_pos j)))]
  rcases Nat.lt_or_ge r f.lead with hr | hr
  · rw [Nat.div_eq_of_lt hr, Nat.mod_eq_of_lt hr, Nat.add_comm r]
    congr 2
    omega
  · -- rounded up to a power of two: the fraction is zero and the exponent one higher
    obtain rfl : r = f.lead := by omega
    have hexp : f.minExponent + ((1 + (j + 1) : Nat) : Int) - 1 = 1 + (f.minExponent + j) := by
      omega
    rw [Nat.div_self hpos, Nat.mod_self, hexp, zpow_one_add₀ (by norm_num)]
    push_cast
    ring

/-! ## Words of finite numbers -/

theorem exists_roundMagnitude (f : BinaryFormat) (negative : Bool) (m : Nat) (e : Int) :
    ∃ num den : Nat, 0 < den ∧ (num / den : ℚ) = m * 2 ^ e ∧
      f.encode (.finite negative m e) = f.sign negative + f.roundMagnitude num den := by
  refine ⟨(scaled m 1 e).1, (scaled m 1 e).2, scaled_den_pos Nat.one_pos e, ?_, rfl⟩
  rw [scaled_ratio, Nat.cast_one, div_one]

section

variable (negative : Bool) (m : Nat) (e : Int)

theorem Proper.encode_lt (hf : f.Proper) :
    f.encode (.finite negative m e) < 2 ^ (f.exponentBits + f.precision) := by
  obtain ⟨num, den, -, -, hencode⟩ := f.exists_roundMagnitude negative m e
  rw [hencode]
  exact hf.sign_add_lt negative
    (lt_of_le_of_lt (f.roundMagnitude_le num den) hf.infinity_lt_signBit)

/-- A number that reaches the overflow is read back as infinite. -/
theorem Proper.decode_encode_of_overflow (hf : f.Proper) (h : f.overflow ≤ m * 2 ^ e) :
    f.decode (f.encode (.finite negative m e)) = .infinite negative := by
  obtain ⟨num, den, hden, hratio, hencode⟩ := f.exists_roundMagnitude negative m e
  rw [hencode, (hf.roundMagnitude_eq_infinity_iff num hden).2 (hratio ▸ h), hf.decode_infinity]

/-- Any other number is read back as a number, the one of its rounded magnitude. -/
theorem Proper.exists_value_encode (hf : f.Proper) (h : m * 2 ^ e < f.overflow) :
    ∃ num den : Nat, 0 < den ∧ (num / den : ℚ) = m * 2 ^ e ∧
      f.roundMagnitude num den < f.infinity ∧
      (f.decode (f.encode (.finite negative m e))).value =
        some (withSign negative (f.magnitude (f.roundMagnitude num den))) := by
  obtain ⟨num, den, hden, hratio, hencode⟩ := f.exists_roundMagnitude negative m e
  have hlt := (hf.roundMagnitude_lt_infinity_iff num hden).2 (hratio ▸ h)
  refine ⟨num, den, hden, hratio, hlt, ?_⟩
  rw [hencode, hf.value_decode negative hlt]

/-- It is read back as zero only up to half of the least number. -/
theorem Proper.value_encode_of_lt (hf : f.Proper) (h : m * 2 ^ e < f.overflow) :
    ∃ x : ℚ, (f.decode (f.encode (.finite negative m e))).value = some (withSign negative x) ∧
      (x = 0 ↔ m * 2 ^ e ≤ (2 : ℚ) ^ (f.minExponent - 1)) := by
  obtain ⟨num, den, hden, hratio, -, hvalue⟩ := hf.exists_value_encode negative m e h
  refine ⟨_, hvalue, ?_⟩
  rw [magnitude_eq_zero_iff, hf.roundMagnitude_eq_zero_iff num hden, hratio]

/-- A number of at most `precision` places is read back as itself. -/
theorem Proper.value_encode_of_grid (hf : f.Proper) (h : m * 2 ^ e < f.overflow) {M i : Nat}
    (hM : M ≤ 2 ^ f.precision) (hgrid : (m * 2 ^ e : ℚ) = M * 2 ^ (f.minExponent + i)) :
    (f.decode (f.encode (.finite negative m e))).value = some (withSign negative (m * 2 ^ e)) := by
  obtain ⟨num, den, hden, hratio, hlt, hvalue⟩ := hf.exists_value_encode negative m e h
  rw [hvalue, ← hratio]
  rcases Nat.eq_zero_or_pos num with rfl | hnum
  · have hzero : f.roundMagnitude 0 den = 0 := rfl
    rw [hzero, magnitude_eq_zero_iff.2 rfl, Nat.cast_zero, zero_div]
  · obtain ⟨j, N, hrounds, hround⟩ := hf.exists_rounds hnum hden
    rw [hround] at hlt ⊢
    rw [min_eq_right (by omega), hrounds.magnitude_eq hf,
      hrounds.of_grid hf hM (hratio.trans hgrid)]

end

/-! ## From one format to another -/

variable {g : BinaryFormat} {word : Nat}

/-- What is not a number keeps the exponent of infinity and has a fraction behind it. -/
theorem Proper.exists_convertNaN (hg : g.Proper) (f : BinaryFormat) (word : Nat) :
    ∃ negative fraction, 0 < fraction ∧ fraction < g.lead ∧
      f.convertNaN g word = g.sign negative + (g.infinity + fraction) := by
  have hp := hg.precision
  have hquiet : 0 < 2 ^ (g.precision - 2) := Nat.pow_pos (by decide)
  have hlead : g.lead = 2 ^ (g.precision - 2) + 2 ^ (g.precision - 2) := by
    rw [lead, ← Nat.two_mul, ← Nat.pow_succ']
    congr 1
    omega
  refine ⟨_, _, ?_, ?_, rfl⟩
  · exact Nat.add_pos_left hquiet _
  · rw [hlead]
    exact Nat.add_lt_add_left (Nat.mod_lt _ hquiet) _

theorem Proper.infinity_add_lt (hf : f.Proper) {fraction : Nat} (h : fraction < f.lead) :
    f.infinity + fraction < f.signBit := by
  have hsucc : 2 ^ f.exponentBits - 1 + 1 = 2 ^ f.exponentBits :=
    Nat.sub_add_cancel (Nat.pow_pos (by decide))
  have hsign : f.signBit = f.infinity + f.lead := by
    rw [hf.signBit_eq, ← hsucc, Nat.succ_mul]
    rfl
  omega

theorem Proper.decode_convertNaN (hg : g.Proper) (f : BinaryFormat) (word : Nat) :
    g.decode (f.convertNaN g word) = .nan := by
  obtain ⟨negative, fraction, hpos, hlt, hconvert⟩ := hg.exists_convertNaN f word
  have hfields : g.infinity + fraction = fraction + g.lead * (2 ^ g.exponentBits - 1) := by
    rw [Nat.add_comm, Nat.mul_comm]
    rfl
  have hdiv : (g.infinity + fraction) / g.lead = 2 ^ g.exponentBits - 1 := by
    rw [hfields, Nat.add_mul_div_left _ _ g.lead_pos, Nat.div_eq_of_lt hlt, Nat.zero_add]
  have hmod : (g.infinity + fraction) % g.lead = fraction := by
    rw [hfields, Nat.add_mul_mod_self_left, Nat.mod_eq_of_lt hlt]
  rw [hconvert, decode_fields negative (hg.infinity_add_lt hlt), if_pos hdiv, hmod,
    if_neg hpos.ne']

theorem convert_of_ne_nan (h : f.decode word ≠ .nan) :
    f.convert g word = g.encode (f.decode word) := by
  unfold convert
  split
  · rename_i hnan
    exact absurd hnan h
  · rfl

/-- What is not a number, and nothing else, is converted to what is not a number. -/
theorem Proper.decode_convert_eq_nan_iff (hg : g.Proper) :
    g.decode (f.convert g word) = .nan ↔ f.decode word = .nan := by
  cases hword : f.decode word with
  | nan =>
    refine iff_of_true ?_ rfl
    rw [convert, hword]
    exact hg.decode_convertNaN f word
  | infinite negative =>
    refine iff_of_false ?_ nofun
    have hinfinite : g.encode (.infinite negative) = g.sign negative + g.infinity := rfl
    rw [convert_of_ne_nan (by simp [hword]), hword, hinfinite, hg.decode_infinity]
    nofun
  | finite negative m e =>
    refine iff_of_false ?_ nofun
    rw [convert_of_ne_nan (by simp [hword]), hword]
    rcases le_or_gt g.overflow (m * 2 ^ e) with hover | hlt
    · rw [hg.decode_encode_of_overflow negative m e hover]
      nofun
    · intro hnan
      obtain ⟨_, _, _, _, _, hvalue⟩ := hg.exists_value_encode negative m e hlt
      rw [hnan] at hvalue
      cases hvalue

theorem Proper.convert_lt (hg : g.Proper) (f : BinaryFormat) (word : Nat) :
    f.convert g word < 2 ^ (g.exponentBits + g.precision) := by
  cases hword : f.decode word with
  | nan =>
    obtain ⟨negative, fraction, -, hlt, hconvert⟩ := hg.exists_convertNaN f word
    rw [convert, hword]
    show f.convertNaN g word < _
    rw [hconvert]
    exact hg.sign_add_lt negative (hg.infinity_add_lt hlt)
  | infinite negative =>
    rw [convert_of_ne_nan (by simp [hword]), hword]
    exact hg.sign_add_lt negative hg.infinity_lt_signBit
  | finite negative m e =>
    rw [convert_of_ne_nan (by simp [hword]), hword]
    exact hg.encode_lt negative m e

theorem Proper.two_pow_lt_overflow (hf : f.Proper) (htop : 0 < f.minExponent + f.top) :
    2 ^ f.precision < f.overflow := by
  have hp := hf.two_le_two_pow
  have htwo : (2 : ℚ) ≤ 2 ^ (f.minExponent + f.top) :=
    calc (2 : ℚ) = 2 ^ (1 : Int) := (zpow_one 2).symm
      _ ≤ 2 ^ (f.minExponent + f.top) := zpow_le_zpow_right₀ (by norm_num) htop
  calc (2 : ℚ) ^ f.precision < (2 ^ f.precision - 1 / 2) * 2 := by linarith
    _ ≤ f.overflow := mul_le_mul_of_nonneg_left htwo (by linarith)

/-- Integers of at most `precision` places are read back as themselves. -/
theorem Proper.value_encode_int (hf : f.Proper) (hmin : f.minExponent ≤ 0)
    (htop : 0 < f.minExponent + f.top) {n : Int} (hn : n.natAbs ≤ 2 ^ f.precision) :
    (f.decode (f.encode (.finite (n < 0) n.natAbs 0))).value = some (n : ℚ) := by
  have hlt : (n.natAbs * 2 ^ (0 : Int) : ℚ) < f.overflow := by
    rw [zpow_zero, mul_one]
    exact lt_of_le_of_lt (by exact_mod_cast hn) (hf.two_pow_lt_overflow htop)
  have hexp : f.minExponent + ((-f.minExponent).toNat : Int) = 0 := by omega
  rw [hf.value_encode_of_grid _ _ _ hlt hn (i := (-f.minExponent).toNat) (by rw [hexp]),
    zpow_zero, mul_one, withSign_natAbs]

/-! ## Singles and doubles -/

theorem proper_single : single.Proper := ⟨by decide, by decide⟩

theorem proper_double : double.Proper := ⟨by decide, by decide⟩

theorem overflow_single : single.overflow = 2 ^ 128 - 2 ^ 103 := by
  have hexp : single.minExponent + single.top = 104 := by decide
  rw [overflow, hexp]
  norm_num [single]

end BinaryFormat

open BinaryFormat

theorem Binary32.datum_ofDatum (negative : Bool) (m : Nat) (e : Int) :
    (Binary32.ofDatum (.finite negative m e)).datum =
      single.decode (single.encode (.finite negative m e)) :=
  congrArg single.decode (Nat.mod_eq_of_lt (proper_single.encode_lt negative m e))

theorem Binary64.datum_ofDatum (negative : Bool) (m : Nat) (e : Int) :
    (Binary64.ofDatum (.finite negative m e)).datum =
      double.decode (double.encode (.finite negative m e)) :=
  congrArg double.decode (Nat.mod_eq_of_lt (proper_double.encode_lt negative m e))

theorem Binary64.datum_toSingle (x : Binary64) :
    x.toSingle.datum = single.decode (double.convert single x.bits.toNat) :=
  congrArg single.decode (Nat.mod_eq_of_lt (proper_single.convert_lt double x.bits.toNat))

theorem Binary64.datum_toSingle_of_ne_nan {x : Binary64} (h : x.datum ≠ .nan) :
    x.toSingle.datum = single.decode (single.encode x.datum) := by
  rw [datum_toSingle, convert_of_ne_nan h]
  rfl

/-- Narrowing neither makes nor loses what is not a number. -/
theorem Binary64.datum_toSingle_eq_nan_iff {x : Binary64} :
    x.toSingle.datum = .nan ↔ x.datum = .nan := by
  rw [datum_toSingle]
  exact proper_single.decode_convert_eq_nan_iff

/-- The sign and the highest places of the fraction stay, and a signal is made quiet. -/
example : (⟨0xfff8000000000000⟩ : Binary64).toSingle = ⟨0xffc00000⟩ ∧
    (⟨0x7ff0000020000000⟩ : Binary64).toSingle = ⟨0x7fc00001⟩ := by decide +kernel

theorem Binary32.value_ofInt {n : Int} (hn : n.natAbs ≤ 2 ^ 24) :
    (Binary32.ofInt n).datum.value = some (n : ℚ) := by
  rw [Binary32.ofInt, Binary32.datum_ofDatum]
  exact proper_single.value_encode_int (by decide) (by decide) hn

theorem Binary64.value_ofInt {n : Int} (hn : n.natAbs ≤ 2 ^ 53) :
    (Binary64.ofInt n).datum.value = some (n : ℚ) := by
  rw [Binary64.ofInt, Binary64.datum_ofDatum]
  exact proper_double.value_encode_int (by decide) (by decide) hn

end SqlCatalog
