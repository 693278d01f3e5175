import TextTemplate.Proofs.Number.Rounding

/-! The range of double precision ends halfway between its greatest number and 2 ^ 1024: what lies
below is rounded to a finite number, and the rest to infinity. -/

namespace TextTemplate

/-- The least magnitude that is rounded to infinity. -/
def Binary64.overflow : ℚ :=
  2 ^ 1024 - 2 ^ 970

/-- The end of the range is half a step above the greatest magnitude. -/
theorem overflow_units : Binary64.overflow * 2 ^ 1074 = (2 ^ 53 - 1 / 2) * 2 ^ 2045 := by
  have top : (2 : ℚ) ^ 1024 = 2 ^ 54 * 2 ^ 970 := pow_add 2 54 970
  have step : (2 : ℚ) ^ 2045 = 2 * (2 ^ 970 * 2 ^ 1074) := by rw [← pow_add, ← pow_succ']
  rw [Binary64.overflow, top, step]
  -- The powers are too large to be computed, and the equation holds of any.
  generalize (2 : ℚ) ^ 970 = low
  generalize (2 : ℚ) ^ 1074 = unit
  ring

/-- What is rounded below an even number lies more than a half below it, since halfway the even
number would be taken. -/
theorem IsNearest.lt_iff {q : ℚ} {n bound : Nat} (nearest : IsNearest q n)
    (even : bound % 2 = 0) : n < bound ↔ q < bound - 1 / 2 := by
  obtain ⟨least, most⟩ := nearest.bounds
  constructor
  · intro below
    -- A number further below than the next is more than a half away in any case.
    rcases Nat.lt_or_eq_of_le (Nat.succ_le_of_lt below) with less | next
    · have further : (n : ℚ) + 1 + 1 ≤ bound := by exact_mod_cast less
      linarith
    · -- The number just below is odd, so it does not hold the point halfway.
      subst next
      unfold IsNearest Between at nearest
      rw [if_neg (by omega)] at nearest
      push_cast
      linarith [nearest.2]
  · intro below
    have less : (n : ℚ) < bound := by linarith
    exact_mod_cast less

namespace Magnitude

/-- Parts are those of a magnitude where they are in range. -/
theorem ofParts?_isSome_iff {significand shift : Nat} :
    (ofParts? significand shift).isSome ↔
      significand < 2 ^ 53 ∧ shift ≤ 2045 ∧ (shift = 0 ∨ 2 ^ 52 ≤ significand) := by
  -- The parts make up a magnitude under just its conditions.
  unfold ofParts?
  split
  · rename_i fits
    exact iff_of_true rfl fits
  · rename_i misfit
    exact iff_of_false Bool.false_ne_true misfit

/-- What a magnitude holds lies within the range. -/
theorem Holds.lt_overflow {m : Magnitude} {units : ℚ} (holds : m.Holds (units / 2 ^ 1074)) :
    units < Binary64.overflow * 2 ^ 1074 := by
  -- A significand stays below 2 ^ 53, which is even, and the shift below its greatest.
  have power : (0 : ℚ) < 2 ^ m.shift := by positivity
  have even : 2 ^ 53 % 2 = 0 := by decide
  have below := (holds.isNearest.lt_iff even).mp m.significand_lt
  rw [div_lt_iff₀ power] at below
  rw [overflow_units]
  calc units < ((2 ^ 53 : Nat) - 1 / 2) * 2 ^ m.shift := below
    _ = (2 ^ 53 - 1 / 2) * 2 ^ m.shift := by norm_cast
    _ ≤ (2 ^ 53 - 1 / 2) * 2 ^ 2045 :=
      mul_le_mul_of_nonneg_left (pow_le_pow_right₀ one_le_two m.shift_le) (by norm_num)

/-- A count of units is rounded to a magnitude where it lies within the range. -/
theorem nearest?_isSome_iff {units : Ratio} :
    (nearest? units).isSome ↔ units.value < Binary64.overflow * 2 ^ 1074 := by
  constructor
  · intro found
    obtain ⟨m, nearest⟩ := Option.isSome_iff_exists.mp found
    exact (nearest?_eq_some_iff.mp nearest).lt_overflow
  -- What is rounded has the parts of a magnitude: its bits are counted, and its shift is in range.
  · intro below
    obtain ⟨shift, shifted⟩ : ∃ shift, (units.num / units.den).log2 - 52 = shift := ⟨_, rfl⟩
    obtain ⟨full, upper⟩ := shift_eq_iff.mp shifted
    have power : (0 : ℚ) < 2 ^ shift := by positivity
    have nearest := isNearest_round ⟨units.num, units.den * twoPow shift,
      Nat.mul_pos units.den_pos (twoPow_pos shift)⟩
    have steps : (Ratio.mk units.num (units.den * twoPow shift)
        (Nat.mul_pos units.den_pos (twoPow_pos shift))).value = units.value / 2 ^ shift := by
      simp only [Ratio.value, Nat.cast_mul, cast_twoPow, div_div]
    rw [steps] at nearest
    simp only [nearest?, shifted]
    generalize Ratio.round _ = significand at nearest ⊢
    rw [overflow_units] at below
    -- Shifted units have all 53 bits, so rounding does not fall below the least significand.
    have least : shift = 0 ∨ 2 ^ 52 ≤ significand := by
      refine full.imp_right fun reached => not_lt.mp fun less => ?_
      have short := (nearest.lt_iff (by decide)).mp less
      rw [pow_add, ← le_div_iff₀ power] at reached
      push_cast at short
      linarith
    -- A larger shift would need units beyond the end of the range.
    have narrow : shift ≤ 2045 := by
      by_contra! wide
      have reached : (2 : ℚ) ^ (52 + 2046) ≤ units.value :=
        (pow_le_pow_right₀ one_le_two (by omega)).trans (full.resolve_left (by omega))
      rw [show 52 + 2046 = 53 + 2045 from rfl, pow_add] at reached
      have step : (0 : ℚ) < 2 ^ 2045 := by positivity
      generalize (2 : ℚ) ^ 2045 = last at *
      linarith
    split
    · -- Rounding carries into the next power of two, which the last shift does not leave room for.
      rename_i carried
      refine ofParts?_isSome_iff.mpr ⟨by decide, ?_, .inr (by decide)⟩
      by_contra! wide
      obtain rfl : shift = 2045 := by omega
      rw [← div_lt_iff₀ power] at below
      have even : 2 ^ 53 % 2 = 0 := by decide
      have less := (nearest.lt_iff even).mpr (by exact_mod_cast below)
      exact absurd carried less.ne
    -- Without a carry the significand is at most 2 ^ 53 and is not that number.
    · rename_i kept
      refine ofParts?_isSome_iff.mpr ⟨lt_of_le_of_ne ?_ kept, narrow, least⟩
      rw [pow_add, ← div_lt_iff₀ power] at upper
      have most : (significand : ℚ) < 2 ^ 53 + 1 := by linarith [nearest.bounds.1]
      exact Nat.lt_add_one_iff.mp (by exact_mod_cast most)

end Magnitude

/-- A count of units is rounded to a finite number where it has a nearest magnitude. -/
theorem Binary64.isFinite_ofUnits (negative : Bool) (units : Ratio) :
    (Binary64.ofUnits negative units).isFinite = (Magnitude.nearest? units).isSome := by
  -- Without a nearest magnitude the number is infinite.
  unfold ofUnits
  cases Magnitude.nearest? units with
  | none => rfl
  | some m => rfl

/-- A fraction is rounded to a finite number where it lies within the range. -/
theorem Binary64.isFinite_ofRatio_iff (negative : Bool) (r : Ratio) :
    (Binary64.ofRatio negative r).isFinite ↔ r.value < overflow := by
  -- The fraction is compared with the end of the range in units.
  have unit : (0 : ℚ) < 2 ^ 1074 := by positivity
  rw [ofRatio, isFinite_ofUnits, Magnitude.nearest?_isSome_iff, ← div_lt_iff₀ unit,
    value_mul_twoPow]

/-- The range ends below the powers of ten that are not computed. -/
theorem overflow_lt : Binary64.overflow < 10 ^ (400 : Int) := by
  -- The end of the range is below 2 ^ 1024, which has 309 digits.
  have low : (0 : ℚ) < 2 ^ 970 := by positivity
  calc Binary64.overflow < 2 ^ 1024 := sub_lt_self _ low
    _ < 10 ^ (400 : Int) := Literal.pow_two_lt_pow_ten (by decide)

/-- The range holds all powers of two below its end. -/
theorem pow_lt_overflow {bits : Nat} (fits : bits ≤ 1023) : (2 : ℚ) ^ bits < Binary64.overflow := by
  -- Twice the greatest of these powers is 2 ^ 1024, far from which the end does not lie.
  have least : (2 : ℚ) ^ bits ≤ 2 ^ 1023 := pow_le_pow_right₀ one_le_two fits
  have step : (2 : ℚ) ^ 970 < 2 ^ 1023 := pow_lt_pow_right₀ one_lt_two (by decide)
  rw [Binary64.overflow, pow_succ (2 : ℚ) 1023]
  generalize (2 : ℚ) ^ 1023 = top at *
  generalize (2 : ℚ) ^ 970 = low at *
  linarith

/-- A literal is read as a finite number where its magnitude lies within the range. -/
theorem Literal.isFinite_toBinary64_iff (literal : Literal) :
    literal.toBinary64.isFinite ↔ literal.magnitude < Binary64.overflow := by
  have positive : 1 < Binary64.overflow :=
    (pow_zero (2 : ℚ)).symm.trans_lt (pow_lt_overflow (Nat.zero_le 1023))
  rw [toBinary64, Binary64.ofDecimal]
  split
  -- Zero is finite without any computation.
  · rename_i none
    refine iff_of_true rfl ?_
    rw [magnitude, none, Nat.cast_zero, zero_mul]
    linarith
  rename_i some
  obtain ⟨first, next⟩ := literal.magnitude_bounds (Nat.pos_of_ne_zero some)
  split
  · -- Beyond the greatest power of ten that is computed, nothing is finite.
    rename_i large
    refine iff_of_false Bool.false_ne_true (not_lt.mpr ?_)
    calc Binary64.overflow ≤ 10 ^ (400 : Int) := overflow_lt.le
      _ ≤ 10 ^ (digitCount literal.digits + literal.exponent - 1) :=
        zpow_le_zpow_right₀ (by norm_num) (by omega)
      _ ≤ literal.magnitude := first
  split
  -- A number below one is in range, whichever number it is rounded to.
  · rename_i small
    refine iff_of_true rfl ?_
    calc literal.magnitude < 10 ^ (digitCount literal.digits + literal.exponent) := next
      _ ≤ 10 ^ (0 : Int) := zpow_le_zpow_right₀ (by norm_num) (by omega)
      _ = 1 := zpow_zero 10
      _ < Binary64.overflow := positive
  · rw [Binary64.isFinite_ofRatio_iff, value_scaled, value_ofNat, magnitude]

end TextTemplate
