import Mathlib.Algebra.Order.Field.Power
import Mathlib.Tactic.Linarith
import Mathlib.Tactic.Positivity
import Mathlib.Tactic.Ring
import SqlCatalog.Binary.Binary64
/-!
# Rounding to a format

A positive number is rounded at the place that leaves it `precision` places, or
at the least exponent if that is higher. `Rounds` is what this comes to in
rational numbers, with no quotients of natural numbers in it. From it alone come
the numbers that rounding sends to zero and to infinity
(`Proper.roundMagnitude_eq_zero_iff`, `Proper.roundMagnitude_eq_infinity_iff`)
and those that it leaves as they are (`Rounds.of_grid`).
-/
namespace SqlCatalog.BinaryFormat

/-! ## Quotients -/

theorem lt_nearestEven_iff {M n d : Nat} (hd : 0 < d) :
    M < nearestEven n d ↔
      (2 * M + 1) * d < 2 * n ∨ ((2 * M + 1) * d = 2 * n ∧ M % 2 = 1) := by
  have hdiv := Nat.div_add_mod n d
  have hmod := Nat.mod_lt n hd
  generalize hq : n / d = q at *
  generalize hr : n % d = r at *
  have h2 : 2 * n = 2 * (d * q) + 2 * r := by omega
  have hM : (2 * M + 1) * d = 2 * (d * M) + d := by ring
  rw [h2, hM]
  unfold nearestEven
  simp only [hq, hr]
  rcases lt_trichotomy M q with h | rfl | h
  · have : d * M + d ≤ d * q := by
      have := Nat.mul_le_mul_left d h
      rwa [Nat.mul_succ] at this
    split_ifs <;> omega
  · split_ifs <;> omega
  · have : d * q + d ≤ d * M := by
      have := Nat.mul_le_mul_left d h
      rwa [Nat.mul_succ] at this
    split_ifs <;> omega

theorem scaled_den_pos {num den : Nat} (hden : 0 < den) (k : Int) : 0 < (scaled num den k).2 :=
  Nat.mul_pos hden (Nat.pow_pos (by decide))

theorem scaled_ratio {num den : Nat} (k : Int) :
    ((scaled num den k).1 : ℚ) / (scaled num den k).2 = num / den * 2 ^ k := by
  have hcast (j : Nat) : ((Nat.pow 2 j : Nat) : ℚ) = 2 ^ (j : Int) := by
    rw [zpow_natCast]
    exact Nat.cast_pow 2 j
  simp only [scaled, Nat.cast_mul, hcast]
  have hk : (2 : ℚ) ^ k = 2 ^ (k.toNat : Int) / 2 ^ ((-k).toNat : Int) := by
    rw [← zpow_sub₀ (by norm_num)]
    congr 1
    omega
  rw [hk, mul_div_mul_comm]

theorem log2_bounds {n : Nat} (hn : 0 < n) :
    (2 : ℚ) ^ (n.log2 : Int) ≤ n ∧ (n : ℚ) < 2 ^ ((n.log2 : Int) + 1) := by
  constructor
  · rw [zpow_natCast]
    exact_mod_cast Nat.log2_self_le hn.ne'
  · rw [← Nat.cast_succ, zpow_natCast]
    exact_mod_cast Nat.lt_log2_self

theorem floorLog2_bounds {num den : Nat} (hnum : 0 < num) (hden : 0 < den) :
    (2 : ℚ) ^ floorLog2 num den ≤ num / den ∧
      (num / den : ℚ) < 2 ^ (floorLog2 num den + 1) := by
  obtain ⟨hn, hn'⟩ := log2_bounds hnum
  obtain ⟨hd, hd'⟩ := log2_bounds hden
  have hden0 : (0 : ℚ) < den := by exact_mod_cast hden
  have h2 : (2 : ℚ) ≠ 0 := by norm_num
  set g : Int := num.log2 - den.log2 with hg
  have hlow : (2 : ℚ) ^ (g - 1) ≤ num / den := by
    rw [le_div_iff₀ hden0]
    calc (2 : ℚ) ^ (g - 1) * den ≤ 2 ^ (g - 1) * 2 ^ ((den.log2 : Int) + 1) := by gcongr
      _ = 2 ^ (num.log2 : Int) := by
        rw [← zpow_add₀ h2]
        congr 1
        omega
      _ ≤ num := hn
  have hhigh : (num / den : ℚ) < 2 ^ (g + 1) := by
    rw [div_lt_iff₀ hden0]
    calc (num : ℚ) < 2 ^ ((num.log2 : Int) + 1) := hn'
      _ = 2 ^ (g + 1) * 2 ^ (den.log2 : Int) := by
        rw [← zpow_add₀ h2]
        congr 1
        omega
      _ ≤ 2 ^ (g + 1) * den := by gcongr
  have hguess : floorLog2 num den =
      if (scaled num den (-g)).2 ≤ (scaled num den (-g)).1 then g else g - 1 := rfl
  have hratio : (scaled num den (-g)).2 ≤ (scaled num den (-g)).1 ↔
      (2 : ℚ) ^ g ≤ num / den := by
    have hpos : (0 : ℚ) < (scaled num den (-g)).2 := by exact_mod_cast scaled_den_pos hden (-g)
    rw [← Nat.cast_le (α := ℚ), ← one_le_div hpos, scaled_ratio, zpow_neg, ← div_eq_mul_inv,
      one_le_div (by positivity)]
  rw [hguess]
  split_ifs with h
  · exact ⟨hratio.1 h, hhigh⟩
  · rw [sub_add_cancel]
    exact ⟨hlow, lt_of_not_ge fun hle => h (hratio.2 hle)⟩

theorem lt_nearestEven_iff_ratio {M n d : Nat} (hd : 0 < d) :
    M < nearestEven n d ↔
      (M + 1 / 2 : ℚ) < n / d ∨ ((M + 1 / 2 : ℚ) = n / d ∧ M % 2 = 1) := by
  have hd' : (0 : ℚ) < d := by exact_mod_cast hd
  have hlt : (M + 1 / 2 : ℚ) < n / d ↔ (2 * M + 1) * d < 2 * n := by
    rw [lt_div_iff₀ hd', ← Nat.cast_lt (α := ℚ)]
    push_cast
    constructor <;> intro h <;> linarith
  have heq : (M + 1 / 2 : ℚ) = n / d ↔ (2 * M + 1) * d = 2 * n := by
    rw [eq_div_iff hd'.ne', ← Nat.cast_inj (R := ℚ)]
    push_cast
    constructor <;> intro h <;> linarith
  rw [hlt, heq, lt_nearestEven_iff hd]

/-! ## Places of a format -/

variable {f : BinaryFormat}

/-- A format whose numbers have a fraction, and some of which are normal. -/
structure Proper (f : BinaryFormat) : Prop where
  precision : 2 ≤ f.precision
  exponentBits : 2 ≤ f.exponentBits

/-- The least significand of a normal number. -/
def lead (f : BinaryFormat) : Nat := 2 ^ (f.precision - 1)

/-- How far the exponents of finite numbers go above the least one. -/
def top (f : BinaryFormat) : Nat := 2 ^ f.exponentBits - 3

/-- Halfway between the largest finite number and the next power of two. -/
def overflow (f : BinaryFormat) : ℚ :=
  (2 ^ f.precision - 1 / 2) * 2 ^ (f.minExponent + f.top)

theorem lead_pos (f : BinaryFormat) : 0 < f.lead := Nat.pow_pos (by decide)

theorem Proper.two_lead (hf : f.Proper) : 2 * f.lead = 2 ^ f.precision := by
  have hp : f.precision - 1 + 1 = f.precision := Nat.sub_add_cancel (by have := hf.precision; omega)
  rw [lead, ← Nat.pow_succ', Nat.succ_eq_add_one, hp]

theorem Proper.two_le_two_pow (hf : f.Proper) : (2 : ℚ) ≤ 2 ^ f.precision :=
  le_self_pow₀ (by norm_num) (by have := hf.precision; omega)

theorem Proper.infinity_eq (hf : f.Proper) : f.infinity = f.top * f.lead + 2 ^ f.precision := by
  have h4 : 2 ^ 2 ≤ 2 ^ f.exponentBits := Nat.pow_le_pow_right (by decide) hf.exponentBits
  have htop : 2 ^ f.exponentBits - 1 = f.top + 2 := by
    unfold top
    omega
  rw [← hf.two_lead, ← Nat.add_mul, ← htop]
  rfl

/-- A positive number `v` is rounded to `N` last places, and the last place stands
`j` above the least exponent: the number is short of `precision` places, it
reaches the first of them unless `j` is zero, and `N` is the nearest integer,
the even one of two. -/
structure Rounds (f : BinaryFormat) (v : ℚ) (j N : Nat) : Prop where
  high : v / 2 ^ (f.minExponent + j) < 2 ^ f.precision
  low : j = 0 ∨ (f.lead : ℚ) ≤ v / 2 ^ (f.minExponent + j)
  lt_iff : ∀ M : Nat, M < N ↔ (M + 1 / 2 : ℚ) < v / 2 ^ (f.minExponent + j) ∨
    ((M + 1 / 2 : ℚ) = v / 2 ^ (f.minExponent + j) ∧ M % 2 = 1)

theorem Proper.exists_rounds (hf : f.Proper) {num den : Nat} (hnum : 0 < num) (hden : 0 < den) :
    ∃ j N : Nat, f.Rounds (num / den) j N ∧
      f.roundMagnitude num den = min f.infinity (j * f.lead + N) := by
  obtain ⟨hlow, hhigh⟩ := floorLog2_bounds hnum hden
  have h2 : (2 : ℚ) ≠ 0 := by norm_num
  have hp := hf.precision
  set e : Int := max (floorLog2 num den + 1 - f.precision) f.minExponent with he
  have hj : f.minExponent + (e - f.minExponent).toNat = e := by omega
  have hratio : ((scaled num den (-e)).1 / (scaled num den (-e)).2 : ℚ) = num / den / 2 ^ e := by
    rw [scaled_ratio, zpow_neg, ← div_eq_mul_inv]
  refine ⟨(e - f.minExponent).toNat, nearestEven (scaled num den (-e)).1 (scaled num den (-e)).2,
    ⟨?_, ?_, fun M => ?_⟩, ?_⟩
  · rw [hj, div_lt_iff₀ (by positivity), ← zpow_natCast, ← zpow_add₀ h2]
    exact hhigh.trans_le (zpow_le_zpow_right₀ (by norm_num) (by omega))
  · rcases le_or_gt (floorLog2 num den + 1 - f.precision) f.minExponent with h | h
    · exact .inl (by omega)
    · refine .inr ?_
      rw [hj, le_div_iff₀ (by positivity), lead, Nat.cast_pow, Nat.cast_ofNat, ← zpow_natCast,
        ← zpow_add₀ h2]
      exact le_trans (zpow_le_zpow_right₀ (by norm_num) (by omega)) hlow
  · rw [hj, ← hratio]
    exact lt_nearestEven_iff_ratio (scaled_den_pos hden _)
  · unfold roundMagnitude
    rw [if_neg hnum.ne']
    rfl

namespace Rounds

variable {v : ℚ} {j N : Nat}

/-- At most the next power of two. -/
theorem le (h : f.Rounds v j N) : N ≤ 2 ^ f.precision := by
  by_contra hN
  have hhigh := h.high
  rcases (h.lt_iff _).1 (not_le.1 hN) with hlt | ⟨heq, -⟩
  · push_cast at hlt
    linarith
  · push_cast at heq
    linarith

theorem lead_le (h : f.Rounds v j N) : j = 0 ∨ f.lead ≤ N := by
  refine h.low.imp_right fun hlow => ?_
  have hM : f.lead - 1 + 1 = f.lead := Nat.sub_add_cancel f.lead_pos
  have hcast : ((f.lead - 1 : Nat) : ℚ) + 1 = f.lead := by exact_mod_cast hM
  have hlt := (h.lt_iff (f.lead - 1)).2 (.inl (by linarith))
  omega

/-- A number of last places is its own rounding. -/
theorem eq_of_exact (h : f.Rounds v j N) {M : Nat} (hM : v = M * 2 ^ (f.minExponent + j)) :
    N = M := by
  have hu : v / 2 ^ (f.minExponent + j) = M := by
    rw [hM, mul_div_assoc, div_self (by positivity), mul_one]
  have hiff := h.lt_iff
  rw [hu] at hiff
  refine le_antisymm (not_lt.1 fun hlt => ?_) (Nat.le_of_not_lt fun hlt => ?_)
  · rcases (hiff M).1 hlt with hgt | ⟨heq, -⟩ <;> linarith
  · have hcast : (N : ℚ) + 1 ≤ M := by exact_mod_cast hlt
    exact lt_irrefl N ((hiff N).2 (.inl (by linarith)))

/-- Below its own last place a number is as large as `precision` places. -/
theorem le_value (hf : f.Proper) (h : f.Rounds v j N) {i : Nat} (hi : i < j) :
    2 ^ f.precision * 2 ^ (f.minExponent + i) ≤ v := by
  have hlow := h.low.resolve_left (by omega)
  rw [le_div_iff₀ (by positivity)] at hlow
  refine le_trans ?_ hlow
  have hlead : (2 : ℚ) ^ f.precision = f.lead * 2 := by
    rw [mul_comm]
    exact_mod_cast hf.two_lead.symm
  rw [hlead, mul_assoc, ← zpow_one_add₀ (by norm_num)]
  exact mul_le_mul_of_nonneg_left (zpow_le_zpow_right₀ (by norm_num) (by omega)) (by positivity)

/-- From its own last place on a number is short of `precision` places. -/
theorem value_lt (h : f.Rounds v j N) {k : Nat} (hk : j ≤ k) :
    v < 2 ^ f.precision * 2 ^ (f.minExponent + k) := by
  have hhigh := h.high
  rw [div_lt_iff₀ (by positivity)] at hhigh
  refine hhigh.trans_le ?_
  gcongr
  norm_num

/-- A number of at most `precision` places above some last place is left as it is. -/
theorem of_grid (hf : f.Proper) (h : f.Rounds v j N) {M i : Nat} (hM : M ≤ 2 ^ f.precision)
    (hv : v = M * 2 ^ (f.minExponent + i)) : N * 2 ^ (f.minExponent + j) = v := by
  have hpos : (0 : ℚ) < 2 ^ (f.minExponent + i) := by positivity
  rcases le_or_gt j i with hji | hij
  · have hshift : v = (M * 2 ^ (i - j) : Nat) * 2 ^ (f.minExponent + j) := by
      rw [hv, Nat.cast_mul, Nat.cast_pow, Nat.cast_ofNat, mul_assoc, ← zpow_natCast,
        ← zpow_add₀ (by norm_num)]
      congr 2
      omega
    rw [h.eq_of_exact hshift, ← hshift]
  · -- the last place went up, so the number is the next power of two
    have hMge : 2 ^ f.precision ≤ M := by
      have hle := h.le_value hf hij
      rw [hv, mul_le_mul_iff_left₀ hpos] at hle
      exact_mod_cast hle
    obtain rfl : M = 2 ^ f.precision := le_antisymm hM hMge
    have hj : j = i + 1 := by
      by_contra hne
      have hlt := h.le_value hf (show i + 1 < j by omega)
      rw [hv, Nat.cast_succ, ← add_assoc, zpow_add_one₀ (by norm_num)] at hlt
      push_cast at hlt
      nlinarith [pow_pos (show (0 : ℚ) < 2 by norm_num) f.precision]
    have hlead : v = f.lead * 2 ^ (f.minExponent + j) := by
      rw [hv, hj, Nat.cast_succ, ← add_assoc, zpow_add_one₀ (by norm_num), ← hf.two_lead]
      push_cast
      ring
    rw [h.eq_of_exact hlead, ← hlead]

end Rounds

/-! ## Magnitudes -/

/-- Rounding gives zero up to half of the least number. -/
theorem Proper.roundMagnitude_eq_zero_iff (hf : f.Proper) (num : Nat) {den : Nat} (hden : 0 < den) :
    f.roundMagnitude num den = 0 ↔ (num / den : ℚ) ≤ 2 ^ (f.minExponent - 1) := by
  rcases Nat.eq_zero_or_pos num with rfl | hnum
  · have hle : (0 : ℚ) ≤ 2 ^ (f.minExponent - 1) := by positivity
    simpa [roundMagnitude] using hle
  obtain ⟨j, N, h, hround⟩ := hf.exists_rounds hnum hden
  have hinf : 0 < f.infinity := by
    rw [hf.infinity_eq]
    positivity
  have hhalf : (2 : ℚ) ^ (f.minExponent - 1) = 1 / 2 * 2 ^ f.minExponent := by
    rw [zpow_sub_one₀ (by norm_num)]
    ring
  rw [hround, hhalf]
  rcases Nat.eq_zero_or_pos j with rfl | hj
  · -- the last place is the least one, and half of it is a tie that goes to zero
    have hiff := h.lt_iff 0
    simp only [Nat.cast_zero, add_zero, zero_add] at hiff
    rw [← div_le_iff₀ (by positivity), ← not_lt]
    constructor
    · intro hz hlt
      have := hiff.2 (.inl hlt)
      omega
    · intro hle
      have : ¬0 < N := fun hN => by
        rcases hiff.1 hN with hlt | ⟨-, hodd⟩
        · exact hle hlt
        · exact absurd hodd (by decide)
      omega
  · have hlead := h.lead_le.resolve_left hj.ne'
    have hpos := f.lead_pos
    refine iff_of_false (by omega) (not_le.2 ?_)
    refine lt_of_lt_of_le ?_ (h.le_value hf hj)
    have hp : (1 : ℚ) ≤ 2 ^ f.precision := one_le_pow₀ (by norm_num)
    rw [Nat.cast_zero, add_zero]
    gcongr
    linarith

/-- Rounding gives infinity from halfway between the largest number and the next
power of two on. -/
theorem Proper.roundMagnitude_eq_infinity_iff (hf : f.Proper) (num : Nat) {den : Nat}
    (hden : 0 < den) : f.roundMagnitude num den = f.infinity ↔ f.overflow ≤ num / den := by
  have hp := hf.two_le_two_pow
  have hlead := hf.two_lead
  have hpos := f.lead_pos
  rcases Nat.eq_zero_or_pos num with rfl | hnum
  · have hover : 0 < f.overflow := mul_pos (by linarith) (by positivity)
    refine iff_of_false ?_ (by simpa using hover)
    have hinf : 0 < f.infinity := by
      rw [hf.infinity_eq]
      positivity
    simpa [roundMagnitude] using hinf.ne
  obtain ⟨j, N, h, hround⟩ := hf.exists_rounds hnum hden
  rw [hround, min_eq_left_iff, hf.infinity_eq]
  rcases lt_trichotomy j f.top with hj | hj | hj
  · have hN := h.le
    have hmul : j * f.lead + f.lead ≤ f.top * f.lead := by
      rw [← Nat.succ_mul]
      exact Nat.mul_le_mul_right _ hj
    refine iff_of_false (by omega) (not_le.2 ?_)
    have hdouble : 2 * (2 : ℚ) ^ (f.minExponent + j) ≤ 2 ^ (f.minExponent + f.top) := by
      rw [← zpow_one_add₀ (by norm_num)]
      exact zpow_le_zpow_right₀ (by norm_num) (by omega)
    calc (num / den : ℚ) < 2 ^ f.precision * 2 ^ (f.minExponent + j) := h.value_lt le_rfl
      _ ≤ (2 ^ f.precision - 1 / 2) * (2 * 2 ^ (f.minExponent + j)) := by
        rw [← mul_assoc]
        gcongr
        linarith
      _ ≤ f.overflow := by
        unfold overflow
        gcongr
        linarith
  · -- the largest number of places is odd, so the tie goes up
    subst hj
    have hodd : (2 ^ f.precision - 1) % 2 = 1 := by omega
    have hcast : ((2 ^ f.precision - 1 : Nat) : ℚ) = 2 ^ f.precision - 1 := by
      rw [Nat.cast_sub (by omega)]
      norm_num
    have hiff := h.lt_iff (2 ^ f.precision - 1)
    rw [hcast] at hiff
    rw [overflow, ← le_div_iff₀ (by positivity)]
    constructor
    · intro hN
      rcases hiff.1 (by omega) with hlt | ⟨heq, -⟩ <;> linarith
    · intro hle
      rcases hle.lt_or_eq with hlt | heq
      · have := hiff.2 (.inl (by linarith))
        omega
      · have := hiff.2 (.inr ⟨by linarith, hodd⟩)
        omega
  · have hN := h.lead_le.resolve_left (by omega)
    have hmul : f.top * f.lead + f.lead ≤ j * f.lead := by
      rw [← Nat.succ_mul]
      exact Nat.mul_le_mul_right _ hj
    refine iff_of_true (by omega) (le_trans ?_ (h.le_value hf hj))
    unfold overflow
    gcongr
    linarith

theorem roundMagnitude_le (f : BinaryFormat) (num den : Nat) :
    f.roundMagnitude num den ≤ f.infinity := by
  unfold roundMagnitude
  split_ifs
  · exact Nat.zero_le _
  · exact Nat.min_le_left _ _

theorem Proper.roundMagnitude_lt_infinity_iff (hf : f.Proper) (num : Nat) {den : Nat}
    (hden : 0 < den) : f.roundMagnitude num den < f.infinity ↔ num / den < f.overflow := by
  rw [lt_iff_le_and_ne, and_iff_right (f.roundMagnitude_le num den), ne_eq,
    hf.roundMagnitude_eq_infinity_iff num hden, not_le]

end SqlCatalog.BinaryFormat
