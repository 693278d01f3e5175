import TextTemplate.Proofs.Number.Notation

/-! A positive number is rounded to a count of significant digits. The digits are found again when
the number is rounded to the decimals that they leave behind the first of them, also where rounding
carries into a power of ten. -/

namespace TextTemplate

/-- The power of ten of the last of a count of digits of a positive number. -/
def lastPlace (count : Nat) (q : ℚ) : Int :=
  Int.log 10 q + 1 - count

/-- The multiple of the last place of a positive number that is nearest to it, a tie going to the
even multiple. -/
def IsSignificant (count : Nat) (q y : ℚ) : Prop :=
  ∃ n : Nat, IsNearest (q / 10 ^ lastPlace count q) n ∧ y = n * 10 ^ lastPlace count q

/-- A positive number is rounded to a whole number with a count of digits, the first of which stands
for a power of ten. -/
structure RoundsTo (count : Nat) (q : ℚ) (n : Nat) (power : Int) : Prop where
  positive : 0 < n
  digits : digitCount n = count
  significant : IsSignificant count q (n * 10 ^ (power + 1 - count))
  /-- At the place of its last digit, the number is rounded to the same digits. -/
  nearest : IsNearest (q / 10 ^ (power + 1 - count)) n

variable {count n : Nat} {q y other : ℚ} {power : Int}

/-- A number is rounded to one number of a count of digits. -/
theorem IsSignificant.unique (rounded : IsSignificant count q y)
    (also : IsSignificant count q other) : other = y := by
  -- There is one nearest multiple.
  obtain ⟨n, nearest, rfl⟩ := rounded
  obtain ⟨m, near, rfl⟩ := also
  rw [near.unique nearest]

/-- A positive number counted in its last place has as many digits before the point as counted. -/
theorem div_lastPlace_bounds (positive : 0 < q) (some : 0 < count) :
    (10 ^ (count - 1) : Nat) ≤ q / 10 ^ lastPlace count q ∧
      q / 10 ^ lastPlace count q < (10 ^ count : Nat) := by
  -- The logarithm bounds the number by powers of ten, which are counted in the last place.
  have place : (0 : ℚ) < 10 ^ lastPlace count q := zpow_pos (by norm_num) _
  have lower : (10 : ℚ) ^ Int.log 10 q ≤ q := Int.zpow_log_le_self (by decide) positive
  have upper : q < (10 : ℚ) ^ (Int.log 10 q + 1) := Int.lt_zpow_succ_log_self (by decide) q
  have power (more : Nat) : (10 ^ more : Nat) * (10 : ℚ) ^ lastPlace count q =
      10 ^ (Int.log 10 q + 1 + more - count) := by
    rw [Nat.cast_pow, Nat.cast_ofNat, ← zpow_natCast, ← zpow_add₀ (by norm_num), lastPlace]
    congr 1
    ring
  have least : Int.log 10 q + 1 + (count - 1 : Nat) - count = Int.log 10 q := by omega
  have most : Int.log 10 q + 1 + count - count = Int.log 10 q + 1 := by omega
  constructor
  · rwa [le_div_iff₀ place, power, least]
  · rwa [div_lt_iff₀ place, power, most]

/-- Rounding does not leave a range between whole numbers. -/
theorem IsNearest.bounds_of_le {low high : Nat} (nearest : IsNearest q n) (lower : low ≤ q)
    (upper : q < high) : low ≤ n ∧ n ≤ high := by
  obtain ⟨near, far⟩ := nearest.bounds
  constructor
  · -- Whole numbers less than one apart are in order.
    have less : (low : ℚ) < n + 1 := by linarith
    exact Nat.lt_succ_iff.mp (by exact_mod_cast less)
  · have less : (n : ℚ) < high + 1 := by linarith
    exact Nat.lt_succ_iff.mp (by exact_mod_cast less)

/-- A number that is rounded up to a multiple of ten is rounded to the multiple in tens. -/
theorem IsNearest.div_ten (nearest : IsNearest q (10 * n)) (below : q < (10 * n : Nat)) :
    IsNearest (q / 10) n := by
  -- A half is a twentieth in tens, which is well inside the half that is allowed.
  have lower := nearest.bounds.1
  push_cast at lower below
  exact between_of_lt (by linarith) (by linarith)

/-- A number has a count of digits where it lies between two powers of ten. -/
theorem digitCount_eq_of_bounds (some : 0 < count) (lower : 10 ^ (count - 1) ≤ n)
    (upper : n < 10 ^ count) : digitCount n = count := by
  -- The count of digits is one more than the logarithm.
  have positive : 0 < n := (Nat.pow_pos (by decide)).trans_le lower
  rw [digitCount_eq positive, (Nat.log_eq_iff (.inr ⟨by decide, positive.ne'⟩)).mpr
    ⟨lower, by rwa [Nat.sub_add_cancel some]⟩, Nat.sub_add_cancel some]

/-- The nearest number of last places has as many digits as counted, or it is the power of ten above
them, which has one digit more. -/
theorem exists_roundsTo (positive : 0 < q) (some : 0 < count)
    (nearest : IsNearest (q / 10 ^ lastPlace count q) n) :
    if n = tenPow count then RoundsTo count q (tenPow (count - 1)) (Int.log 10 q + 1)
    else RoundsTo count q n (Int.log 10 q) := by
  obtain ⟨least, most⟩ := div_lastPlace_bounds positive some
  obtain ⟨lower, upper⟩ := nearest.bounds_of_le least most
  split
  · rename_i carried
    obtain ⟨less, rfl⟩ := Nat.exists_eq_succ_of_ne_zero some.ne'
    have tens : n = 10 * tenPow less := by
      rw [carried]
      exact Nat.pow_succ'
    have place : Int.log 10 q + 1 + 1 - (less + 1 : Nat) = lastPlace (less + 1) q + 1 := by
      rw [lastPlace]
      ring
    have next : (10 : ℚ) ^ (lastPlace (less + 1) q + 1) = 10 ^ lastPlace (less + 1) q * 10 :=
      zpow_add_one₀ (by norm_num) _
    rw [Nat.succ_sub_one]
    constructor
    · exact tenPow_pos less
    · exact digitCount_eq_of_bounds some le_rfl (Nat.pow_lt_pow_right (by decide) less.lt_succ_self)
    · -- The digits that are left stand for the same number one place higher.
      refine ⟨n, nearest, ?_⟩
      rw [place, next, tens]
      push_cast
      ring
    · -- The number lies below the power of ten, and less than a tenth of a half away.
      rw [place, next, ← div_div]
      refine IsNearest.div_ten (tens ▸ nearest) ?_
      rwa [← tens, carried]
  -- Below the power of ten, the number has just the digits that were counted.
  · rename_i kept
    have short : n < 10 ^ count := lt_of_le_of_ne upper kept
    have leading : 0 < n := (Nat.pow_pos (by decide)).trans_le lower
    exact ⟨leading, digitCount_eq_of_bounds some lower short, ⟨n, nearest, rfl⟩, nearest⟩

/-- The significant digits of a positive fraction are those of the number that it is rounded to. -/
theorem exists_significant {r : Ratio} (positive : 0 < r.num) (some : 0 < count) :
    ∃ n power, r.significant count = ⟨Nat.toDigits 10 n, power⟩ ∧
      RoundsTo count r.value n power := by
  -- The digits are rounded at the last place, where the reader of the fraction scales it.
  have scaled : (r.scaled (count - 1 - Int.log 10 r.value)).value =
      r.value / 10 ^ lastPlace count r.value := by
    rw [value_scaled, div_eq_mul_inv, ← zpow_neg, lastPlace]
    congr 2
    ring
  have nearest := isNearest_round (r.scaled (count - 1 - Int.log 10 r.value))
  rw [scaled] at nearest
  have rounded := exists_roundsTo ((value_pos_iff r).mpr positive) some nearest
  simp only [Ratio.significant, if_neg positive.ne', leadingExponent_eq positive]
  split
  · rename_i carried
    rw [if_pos carried] at rounded
    exact ⟨_, _, rfl, rounded⟩
  · rename_i kept
    rw [if_neg kept] at rounded
    exact ⟨_, _, rfl, rounded⟩

/-- The first digit of the number that is rounded to stands for its power of ten. -/
theorem RoundsTo.log_eq (rounded : RoundsTo count q n power) :
    Int.log 10 (n * (10 : ℚ) ^ (power + 1 - count)) = power := by
  let literal : Literal := ⟨false, n, power + 1 - count⟩
  have positive : 0 < literal.magnitude := Literal.magnitude_pos_iff.mpr rounded.positive
  obtain ⟨lower, upper⟩ := literal.magnitude_bounds rounded.positive
  have place : (digitCount n : Int) + (power + 1 - count) = power + 1 := by
    rw [rounded.digits]
    ring
  simp only [literal, place, add_sub_cancel_right] at lower upper
  -- The number lies between its power of ten and the next.
  have least := (Int.zpow_le_iff_le_log (by decide) positive).mp lower
  have most := (Int.lt_zpow_iff_log_lt (by decide) positive).mp upper
  exact le_antisymm (Int.lt_add_one_iff.mp most) least

/-- Rounded to the decimals that its significant digits leave, a fraction has the same digits. -/
theorem RoundsTo.round_eq {r : Ratio} {decimals : Nat} (rounded : RoundsTo count r.value n power)
    (left : (decimals : Int) = count - 1 - power) : (r.scaled decimals).round = n := by
  -- Both scale the fraction to the place of its last digit.
  have scaled : (r.scaled decimals).value = r.value / 10 ^ (power + 1 - count) := by
    rw [value_scaled, div_eq_mul_inv, ← zpow_neg, left]
    congr 2
    ring
  rw [round_eq_iff, scaled]
  exact rounded.nearest

end TextTemplate
