import TextTemplate.Number.Shortest
import TextTemplate.Proofs.Number.Ratio

/-! A magnitude is a whole number of steps, and is read from what lies within half a step of it. -/

namespace TextTemplate.Magnitude

variable (m : Magnitude)

/-- The distance of a magnitude to the next one above. -/
def step : ℚ :=
  2 ^ m.shift / 2 ^ 1074

/-- The distance of a magnitude to the next one below, which is half a step at a power of two. -/
def stepBelow : ℚ :=
  if m.significand = twoPow 52 ∧ 0 < m.shift then m.step / 2 else m.step

/-- A step is positive. -/
theorem step_pos : 0 < m.step := by
  unfold step
  positivity

/-- The step below is positive. -/
theorem stepBelow_pos : 0 < m.stepBelow := by
  -- The step below is the step or half of it.
  have positive := m.step_pos
  unfold stepBelow
  split
  · exact half_pos positive
  · exact positive

/-- The step below is no longer than the step above. -/
theorem stepBelow_le : m.stepBelow ≤ m.step := by
  -- The step below is the step or half of it.
  have positive := m.step_pos
  unfold stepBelow
  split
  · exact half_le_self positive.le
  · exact le_refl _

/-- A magnitude is its significand in steps. -/
theorem value_ratio : m.ratio.value = m.significand * m.step := by
  -- The units of a magnitude are its significand shifted, and so are its steps.
  simp only [Ratio.value, ratio, units, step, Nat.cast_mul, cast_twoPow, mul_div_assoc]

/-- A magnitude with a shift below that of one is a fraction of a power of two. -/
theorem value_ratio_div {bits : Nat} (below : m.shift + bits = 1074) :
    m.ratio.value = m.significand / 2 ^ bits := by
  -- The shift is one part of the scale, and the bits are the other.
  rw [value_ratio, step, ← below, pow_add, div_mul_cancel_left₀ (by positivity), div_eq_mul_inv]

/-- A magnitude is positive when its significand is. -/
theorem value_ratio_pos_iff : 0 < m.ratio.value ↔ 0 < m.significand := by
  rw [value_ratio, mul_pos_iff_of_pos_right m.step_pos, Nat.cast_pos]

/-- A whole magnitude has a significand when its number is positive. -/
theorem significand_pos_iff {n : Nat} (whole : m.ratio.value = n) :
    0 < m.significand ↔ 0 < n := by
  rw [← value_ratio_pos_iff, whole, Nat.cast_pos]

/-- A fraction is read as a positive magnitude within half a step of it.

The ends belong to the magnitude when its significand is even. -/
theorem covers_iff (positive : 0 < m.significand) (r : Ratio) :
    m.covers r ↔
      if m.significand % 2 = 0 then
        m.ratio.value - m.stepBelow / 2 ≤ r.value ∧ r.value ≤ m.ratio.value + m.step / 2
      else m.ratio.value - m.stepBelow / 2 < r.value ∧ r.value < m.ratio.value + m.step / 2 := by
  have den := den_cast_pos r
  -- Both sides are compared in quarters of a unit over the denominator.
  have unit : (0 : ℚ) < 4 * 2 ^ 1074 * r.den := by positivity
  have point : ((4 * twoPow 1074 * r.num : Nat) : ℚ) = r.value * (4 * 2 ^ 1074 * r.den) := by
    rw [Ratio.value]
    push_cast [cast_twoPow]
    field_simp
  have high : (((4 * m.significand + 2) * twoPow m.shift * r.den : Nat) : ℚ) =
      (m.ratio.value + m.step / 2) * (4 * 2 ^ 1074 * r.den) := by
    rw [value_ratio, step]
    push_cast [cast_twoPow]
    field_simp
    ring
  have low : (((4 * m.significand - if m.significand = twoPow 52 ∧ 0 < m.shift then 1 else 2) *
      twoPow m.shift * r.den : Nat) : ℚ) =
        (m.ratio.value - m.stepBelow / 2) * (4 * 2 ^ 1074 * r.den) := by
    rw [value_ratio, stepBelow, step]
    split
    · rw [Nat.cast_mul, Nat.cast_mul, Nat.cast_sub (by omega)]
      push_cast [cast_twoPow]
      field_simp
      ring
    · rw [Nat.cast_mul, Nat.cast_mul, Nat.cast_sub (by omega)]
      push_cast [cast_twoPow]
      field_simp
      ring
  simp only [covers]
  generalize (if m.significand = twoPow 52 ∧ 0 < m.shift then 1 else 2) = below at low ⊢
  split
  · simp only [Bool.and_eq_true, decide_eq_true_eq, ← @Nat.cast_le ℚ, low, high, point,
      mul_le_mul_iff_of_pos_right unit]
  · simp only [Bool.and_eq_true, decide_eq_true_eq, ← @Nat.cast_lt ℚ, low, high, point,
      mul_lt_mul_iff_of_pos_right unit]

/-- A fraction is read as a positive magnitude no further from it than half a step. -/
theorem covers_near {r : Ratio} (positive : 0 < m.significand) (covered : m.covers r) :
    m.ratio.value - m.stepBelow / 2 ≤ r.value ∧ r.value ≤ m.ratio.value + m.step / 2 := by
  -- The ends count or not, and in both cases nothing lies outside of them.
  rw [covers_iff m positive] at covered
  split at covered
  · exact covered
  · exact ⟨covered.1.le, covered.2.le⟩

/-- A positive magnitude is read from a fraction of its own value. -/
theorem covers_self {r : Ratio} (positive : 0 < m.significand) (same : r.value = m.ratio.value) :
    m.covers r := by
  -- Steps are positive, so a magnitude lies between the ends.
  have above := m.step_pos
  have below := m.stepBelow_pos
  rw [covers_iff m positive, same]
  split
  · constructor <;> linarith
  · constructor <;> linarith

/-- The leading bit of the units of a magnitude shows its shift. -/
theorem log2_units : m.units.log2 - 52 = m.shift := by
  rw [units]
  rcases Nat.eq_zero_or_pos m.shift with none | some
  · -- Without a shift the units have at most 53 bits.
    have small : m.significand * twoPow m.shift < 2 ^ 53 := by
      rw [none]
      exact (Nat.mul_one _).trans_lt m.significand_lt
    by_cases zero : m.significand * twoPow m.shift = 0
    · rw [zero, none]
      rfl
    · have := (Nat.log2_lt zero).mpr small
      omega
  · -- With a shift the significand has exactly 53 bits.
    have full : 2 ^ 52 ≤ m.significand := m.canonical.resolve_left some.ne'
    have power := twoPow_pos m.shift
    have zero : m.significand * twoPow m.shift ≠ 0 := by positivity
    have lower : 2 ^ (52 + m.shift) ≤ m.significand * twoPow m.shift := by
      rw [Nat.pow_add]
      exact Nat.mul_le_mul_right _ full
    have upper : m.significand * twoPow m.shift < 2 ^ (53 + m.shift) := by
      rw [Nat.pow_add]
      exact Nat.mul_lt_mul_of_pos_right m.significand_lt power
    have := (Nat.le_log2 zero).mpr lower
    have := (Nat.log2_lt zero).mpr upper
    omega

/-- A whole quotient needs no rounding. -/
theorem round_mul {n den : Nat} (positive : 0 < den) :
    Ratio.round ⟨n * den, den, positive⟩ = n := by
  simp [Ratio.round, Nat.mul_div_cancel _ positive, positive]

/-- The magnitude nearest to the units of a magnitude is that magnitude. -/
theorem nearest?_units : nearest? (Ratio.ofNat m.units) = some m := by
  have shift : (m.units / 1).log2 - 52 = m.shift := by rw [Nat.div_one, log2_units]
  have significand : Ratio.round ⟨m.units, 1 * twoPow m.shift,
      Nat.mul_pos Nat.one_pos (twoPow_pos m.shift)⟩ = m.significand := by
    simp only [Nat.one_mul]
    exact round_mul (twoPow_pos m.shift)
  have narrow : m.significand ≠ 0x20000000000000 := m.significand_lt.ne
  -- Dividing by the shift leaves the significand, which fits.
  simp only [nearest?, Ratio.ofNat, shift, significand, if_neg narrow, ofParts?]
  rw [dif_pos ⟨m.significand_lt, m.shift_le, m.canonical⟩]

end TextTemplate.Magnitude
