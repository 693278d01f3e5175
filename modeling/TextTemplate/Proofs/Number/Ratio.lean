import Mathlib.Data.Int.Log
import Mathlib.Data.Rat.Floor
import Mathlib.Tactic.FieldSimp
import Mathlib.Tactic.Linarith
import Mathlib.Tactic.NormNum
import Mathlib.Tactic.Positivity
import Mathlib.Tactic.Ring
import TextTemplate.Number.Scientific

/-! Fractions stand for rational numbers, and their leading digit for a power of ten. -/

namespace TextTemplate

/-- The rational number that a fraction stands for. -/
def Ratio.value (r : Ratio) : ℚ :=
  r.num / r.den

/-- A power of two as a rational number. -/
@[simp] theorem cast_twoPow (exponent : Nat) : (twoPow exponent : ℚ) = 2 ^ exponent := by
  simp [twoPow]

/-- A power of ten as a rational number. -/
@[simp] theorem cast_tenPow (exponent : Nat) : (tenPow exponent : ℚ) = 10 ^ exponent := by
  simp [tenPow]

/-- A whole number stands for itself. -/
@[simp] theorem value_ofNat (n : Nat) : (Ratio.ofNat n).value = n := by
  simp [Ratio.value, Ratio.ofNat]

/-- A denominator stands for a positive number. -/
theorem den_cast_pos (r : Ratio) : (0 : ℚ) < r.den :=
  Nat.cast_pos.mpr r.den_pos

/-- A fraction is positive when its numerator is. -/
theorem value_pos_iff (r : Ratio) : 0 < r.value ↔ 0 < r.num := by
  rw [Ratio.value, div_pos_iff_of_pos_right (den_cast_pos r), Nat.cast_pos]

/-- Scaling multiplies by a power of ten. -/
@[simp] theorem value_scaled (r : Ratio) (exponent : Int) :
    (r.scaled exponent).value = r.value * 10 ^ exponent := by
  simp only [Ratio.value, Ratio.scaled, Nat.cast_mul, cast_tenPow]
  -- Only one of the two powers is not one.
  obtain ⟨n, rfl | rfl⟩ := exponent.eq_nat_or_neg
  · simp [div_mul_eq_mul_div]
  · simp [div_eq_mul_inv, mul_comm, mul_assoc]

/-- A fraction of a whole value has that many times its denominator above it. -/
theorem num_eq_mul_den {r : Ratio} {n : Nat} (whole : r.value = n) : r.num = n * r.den := by
  rwa [Ratio.value, div_eq_iff (den_cast_pos r).ne', ← Nat.cast_mul, Nat.cast_inj] at whole

/-- A positive number of some digits lies between two powers of ten. -/
theorem digitCount_bounds {n : Nat} (positive : 0 < n) :
    10 ^ (digitCount n - 1) ≤ n ∧ n < 10 ^ digitCount n := by
  have some : 0 < digitCount n := Nat.length_toDigits_pos
  refine ⟨?_, (Nat.length_toDigits_le_iff (by decide) some).mp (Nat.le_refl _)⟩
  -- A single digit is at least one, and more digits do not fit into fewer.
  by_cases single : digitCount n = 1
  · rw [single]
    exact positive
  · by_contra below
    have fits := (Nat.length_toDigits_le_iff (by decide) (by omega)).mpr (not_le.mp below)
    rw [digitCount] at *
    omega

/-- The digits of a positive number are counted by its logarithm. -/
theorem digitCount_eq {n : Nat} (positive : 0 < n) : digitCount n = Nat.log 10 n + 1 := by
  have some : 0 < digitCount n := Nat.length_toDigits_pos
  obtain ⟨lower, upper⟩ := digitCount_bounds positive
  -- The logarithm is told by the two powers of ten around the number.
  have log : Nat.log 10 n = digitCount n - 1 := by
    refine (Nat.log_eq_iff (.inr ⟨by decide, positive.ne'⟩)).mpr ⟨lower, ?_⟩
    rwa [Nat.sub_add_cancel some]
  omega

/-- A fraction is at least one when its numerator is at least its denominator. -/
theorem den_le_num_iff (r : Ratio) : r.den ≤ r.num ↔ 1 ≤ r.value := by
  rw [Ratio.value, one_le_div (den_cast_pos r), Nat.cast_le]

/-- The digits of the parts of a positive fraction bound it from below. -/
theorem zpow_digits_le_value {r : Ratio} (positive : 0 < r.num) :
    (10 : ℚ) ^ ((digitCount r.num : Int) - 1 - digitCount r.den) ≤ r.value := by
  -- The numerator has its leading digit, and the denominator stays below the next power.
  have some : 1 ≤ digitCount r.num := Nat.length_toDigits_pos
  have lower : (10 : ℚ) ^ (digitCount r.num - 1) ≤ r.num := by
    exact_mod_cast (digitCount_bounds positive).1
  have upper : (r.den : ℚ) ≤ 10 ^ digitCount r.den := by
    exact_mod_cast (digitCount_bounds r.den_pos).2.le
  rw [← Nat.cast_one, ← Nat.cast_sub some, zpow_sub₀ (by norm_num), zpow_natCast, zpow_natCast,
    Ratio.value, div_le_div_iff₀ (by positivity) (den_cast_pos r)]
  exact mul_le_mul lower upper (den_cast_pos r).le (by positivity)

/-- The digits of the parts of a positive fraction bound it from above. -/
theorem value_lt_zpow_digits {r : Ratio} (positive : 0 < r.num) :
    r.value < (10 : ℚ) ^ ((digitCount r.num : Int) - (digitCount r.den - 1)) := by
  -- The numerator stays below the next power, and the denominator has its leading digit.
  have some : 1 ≤ digitCount r.den := Nat.length_toDigits_pos
  have lower : (10 : ℚ) ^ (digitCount r.den - 1) ≤ r.den := by
    exact_mod_cast (digitCount_bounds r.den_pos).1
  have upper : (r.num : ℚ) < 10 ^ digitCount r.num := by
    exact_mod_cast (digitCount_bounds positive).2
  rw [← Nat.cast_one, ← Nat.cast_sub some, zpow_sub₀ (by norm_num), zpow_natCast, zpow_natCast,
    Ratio.value, div_lt_div_iff₀ (den_cast_pos r) (by positivity)]
  exact mul_lt_mul upper lower (by positivity) (by positivity)

/-- The leading digit of a positive fraction stands for the greatest power of ten in it. -/
theorem leadingExponent_eq {r : Ratio} (positive : 0 < r.num) :
    r.leadingExponent = Int.log 10 r.value := by
  have value := (value_pos_iff r).mpr positive
  have lower : (digitCount r.num : Int) - 1 - digitCount r.den ≤ Int.log 10 r.value :=
    (Int.zpow_le_iff_le_log (by decide) value).mp (zpow_digits_le_value positive)
  have upper : Int.log 10 r.value < (digitCount r.num : Int) - (digitCount r.den - 1) :=
    (Int.lt_zpow_iff_log_lt (by decide) value).mp (value_lt_zpow_digits positive)
  -- One comparison decides which of the two powers it is.
  have reached : (r.scaled (-((digitCount r.num : Int) - digitCount r.den))).den ≤
      (r.scaled (-((digitCount r.num : Int) - digitCount r.den))).num ↔
        (digitCount r.num : Int) - digitCount r.den ≤ Int.log 10 r.value := by
    rw [den_le_num_iff, value_scaled, zpow_neg, ← div_eq_mul_inv,
      one_le_div (zpow_pos (by norm_num) _)]
    exact Int.zpow_le_iff_le_log (by decide) value
  rw [Ratio.leadingExponent]
  split
  · rename_i whole
    have := reached.mp whole
    omega
  · rename_i broken
    have := mt reached.mpr broken
    omega

end TextTemplate
