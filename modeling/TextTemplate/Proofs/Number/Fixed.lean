import TextTemplate.Proofs.Json.Grammar
import TextTemplate.Proofs.Number.Range
import TextTemplate.Proofs.Number.Sign

/-! A whole number is shown with zeros for decimals. The floating point number nearest to an integer
is whole, and it is the integer where that has no more than 53 bits before its zeros. -/

namespace TextTemplate

/-- A whole fraction is shown with its own digits, and zeros behind the point. -/
theorem fixed_whole {r : Ratio} {n : Nat} (whole : r.value = n) (decimals : Nat) :
    r.fixed decimals = Nat.toDigits 10 n ++ Json.fraction (List.replicate decimals '0') := by
  have scaled : (r.scaled decimals).value = (n * tenPow decimals : Nat) := by
    rw [value_scaled, whole, Nat.cast_mul, cast_tenPow, zpow_natCast]
  -- Nothing is left to round when a whole number is counted in its decimals.
  have rounded : (r.scaled decimals).round = n * tenPow decimals := by
    rw [round_eq_iff, scaled]
    exact between_of_lt (by linarith) (by linarith)
  have digits :
      List.replicate (decimals + 1 - (Nat.toDigits 10 (n * tenPow decimals)).length) '0' ++
        Nat.toDigits 10 (n * tenPow decimals) =
      Nat.toDigits 10 n ++ List.replicate decimals '0' := by
    rcases Nat.eq_zero_or_pos n with rfl | positive
    · -- Zero has one digit, and the others are filled up in front of it.
      rw [Nat.zero_mul, Nat.toDigits_zero, List.length_singleton, Nat.add_sub_cancel,
        ← List.replicate_succ']
      rfl
    · have some : 0 < (Nat.toDigits 10 n).length := Nat.length_toDigits_pos
      rw [toDigits_mul_tenPow positive, List.length_append, List.length_replicate,
        Nat.sub_eq_zero_of_le (by omega), List.replicate_zero, List.nil_append]
  -- The digits are cut in front of the zeros, which makes them the decimals.
  simp only [Ratio.fixed, rounded, digits, Json.fraction, List.replicate_eq_nil_iff]
  split
  · rename_i none
    rw [none, List.replicate_zero]
  · rw [List.length_append, List.length_replicate, Nat.add_sub_cancel, List.take_left,
      List.drop_left]

/-- Whether a whole number has no more than 53 bits before the zeros at its end. -/
def Representable (n : Nat) : Prop :=
  ∃ significand zeros, significand < 2 ^ 53 ∧ n = significand * 2 ^ zeros

namespace Magnitude

variable {m other : Magnitude} {n : Nat}

/-- Only a magnitude itself holds its value. -/
theorem holds_value_iff : m.Holds other.ratio.value ↔ m = other := by
  -- The units of a magnitude have one nearest magnitude, which is the magnitude itself.
  have units : other.ratio.value = (Ratio.ofNat other.units).value / 2 ^ 1074 := by
    rw [value_ofNat, Ratio.value, ratio, cast_twoPow]
  rw [units, ← nearest?_eq_some_iff, nearest?_units, Option.some_inj, eq_comm]

/-- A magnitude whose steps are no fractions is whole. -/
theorem value_of_shift {zeros : Nat} (shift : m.shift = 1074 + zeros) :
    m.ratio.value = (m.significand * 2 ^ zeros : Nat) := by
  have unit : (2 : ℚ) ^ 1074 ≠ 0 := by positivity
  rw [value_ratio, step, shift, pow_add, mul_div_cancel_left₀ _ unit, Nat.cast_mul, Nat.cast_pow,
    Nat.cast_ofNat]

/-- Large whole numbers are held by magnitudes whose steps are no fractions. -/
theorem Holds.exists_zeros (holds : m.Holds n) (large : 2 ^ 53 ≤ n) :
    ∃ zeros, m.shift = 1074 + zeros := by
  -- A number that large has more than 53 bits in units, so the shift goes past the fractions.
  have unit : (0 : ℚ) < 2 ^ 1074 := by positivity
  rw [← mul_div_cancel_right₀ (n : ℚ) unit.ne'] at holds
  have bits : (2 : ℚ) ^ (53 + 1074) < 2 ^ (53 + m.shift) := calc
    (2 : ℚ) ^ (53 + 1074) = 2 ^ 53 * 2 ^ 1074 := pow_add 2 53 1074
    _ ≤ n * 2 ^ 1074 := mul_le_mul_of_nonneg_right (by exact_mod_cast large) unit.le
    _ < 2 ^ (53 + m.shift) := holds.units_lt
  have less := (pow_lt_pow_iff_right₀ one_lt_two).mp bits
  exact Nat.exists_eq_add_of_le (by omega)

/-- What holds a whole number is whole. -/
theorem Holds.whole (holds : m.Holds n) : ∃ nearest : Nat, m.ratio.value = nearest := by
  rcases le_total n (2 ^ 53) with small | large
  -- A small number is a magnitude itself, and no other one holds it.
  · obtain ⟨exact, value⟩ := exists_whole small
    rw [← value, holds_value_iff] at holds
    exact ⟨n, holds ▸ value⟩
  · obtain ⟨zeros, shift⟩ := holds.exists_zeros large
    exact ⟨_, value_of_shift shift⟩

/-- A whole number is the magnitude that holds it where it has no more bits than a significand. -/
theorem Holds.value_eq_iff (holds : m.Holds n) (fits : n ≤ 2 ^ 63) :
    m.ratio.value = n ↔ Representable n := by
  constructor
  · intro whole
    -- A number below 2 ^ 53 is its own significand. A larger one has that of its magnitude.
    rcases lt_or_ge n (2 ^ 53) with small | large
    · exact ⟨n, 0, small, (Nat.mul_one n).symm⟩
    · obtain ⟨zeros, shift⟩ := holds.exists_zeros large
      rw [value_of_shift shift, Nat.cast_inj] at whole
      exact ⟨m.significand, zeros, m.significand_lt, whole.symm⟩
  -- Such a number is the value of some magnitude, and no other magnitude holds it.
  · rintro ⟨significand, zeros, short, rfl⟩
    obtain ⟨exact, value⟩ : ∃ exact : Magnitude,
        exact.ratio.value = (significand * 2 ^ zeros : Nat) := by
      rcases Nat.eq_zero_or_pos significand with rfl | positive
      · rw [Nat.zero_mul]
        exact exists_whole (Nat.zero_le _)
      · -- An integer of 64 bits has no more zeros than that.
        have power : 2 ^ zeros ≤ 2 ^ 63 := (Nat.le_mul_of_pos_left _ positive).trans fits
        have few := (Nat.pow_le_pow_iff_right (by decide)).mp power
        exact exists_whole_mul short.le (by omega)
    rw [← value, holds_value_iff] at holds
    exact holds ▸ value

end Magnitude

/-- A whole number has the value of its integer. -/
theorem Binary64.IsInteger.value?_eq {x : Binary64} {n : Int} (whole : x.IsInteger n) :
    x.value? = some (n : ℚ) := by
  -- The sign is the same on both sides, and the absolute values agree.
  obtain ⟨m, rfl, value⟩ := whole
  have signed := congrArg (Int.cast (R := ℚ)) (signedInt_natAbs n)
  simp only [value?, value, ← signed, signedInt, apply_ite (Int.cast (R := ℚ)), Int.cast_neg,
    Int.cast_natCast]

/-- A whole number is shown with its own digits, and zeros behind the point. -/
theorem Binary64.IsInteger.fixedText_eq {x : Binary64} {n : Int} (whole : x.IsInteger n)
    (decimals : Nat) :
    fixedText decimals x = minusSign (n < 0) ++
      (Nat.toDigits 10 n.natAbs ++ Json.fraction (List.replicate decimals '0')) := by
  obtain ⟨m, rfl, value⟩ := whole
  -- A whole number has a significand just where it is not zero, so the minus is that of the
  -- integer.
  have minus : (decide (n < 0) && decide (m.significand ≠ 0)) = decide (n < 0) := by
    have zero := Magnitude.significand_eq_zero_iff value
    simp only [Bool.and_eq_left_iff_imp, decide_eq_true_eq]
    omega
  rw [fixedText, minus, fixed_whole value]

/-- The floating point number nearest to an integer of 64 bits is an integer of the same sign, and
the same integer where that has no more bits than a significand. -/
theorem Binary64.exists_nearest (n : Int64) :
    ∃ nearest : Int, (Binary64.ofInt n.toInt).IsInteger nearest ∧
      (nearest < 0 ↔ n.toInt < 0) ∧
      (nearest = n.toInt ↔ Representable n.toInt.natAbs) := by
  -- An integer of 64 bits is far inside the range, so it is rounded to a finite number.
  have fits : n.toInt.natAbs ≤ 2 ^ 63 := by
    have lower := n.minValue_le_toInt
    have upper := n.toInt_le
    rw [Int64.toInt_minValue] at lower
    rw [Int64.toInt_maxValue] at upper
    omega
  have finite : (Binary64.ofInt n.toInt).isFinite := by
    have small : (n.toInt.natAbs : ℚ) ≤ 2 ^ 63 := by exact_mod_cast fits
    rw [ofInt, isFinite_ofRatio_iff, value_ofNat]
    exact small.trans_lt (pow_lt_overflow (by decide))
  rcases ofInt_cases n.toInt with infinite | ⟨m, rounded⟩
  · rw [infinite] at finite
    cases finite
  · have holds := (ofRatio_eq_iff.mp rounded).2
    rw [value_ofNat] at holds
    obtain ⟨nearest, whole⟩ := holds.whole
    have same : nearest = n.toInt.natAbs ↔ Representable n.toInt.natAbs := by
      rw [← holds.value_eq_iff fits, whole, Nat.cast_inj]
    -- A negative integer is not rounded to zero, which would lose its sign.
    have some : n.toInt < 0 → 0 < nearest := fun negative =>
      (m.significand_pos_iff whole).mp (significand_pos_of_ofInt negative rounded)
    have sign : signedInt (n.toInt < 0) nearest < 0 ↔ n.toInt < 0 := by
      simp only [signedInt, decide_eq_true_eq]
      omega
    refine ⟨signedInt (n.toInt < 0) nearest, ⟨m, ?_, ?_⟩, sign, ?_⟩
    · simp only [rounded, sign]
    · rw [whole]
      simp only [signedInt, decide_eq_true_eq]
      split
      · rw [Int.natAbs_neg, Int.natAbs_natCast]
      · rw [Int.natAbs_natCast]
    · rw [← same]
      simp only [signedInt, decide_eq_true_eq]
      omega

end TextTemplate
