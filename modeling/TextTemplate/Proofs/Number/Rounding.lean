import TextTemplate.Number.Literal
import TextTemplate.Proofs.Number.Magnitude

/-! A decimal number is rounded to the magnitude that it lies within half a step of. -/

namespace TextTemplate

/-- A number lies between two others, or is one of them where the ends belong to the range. -/
def Between (closed : Prop) [Decidable closed] (low high q : ℚ) : Prop :=
  if closed then low ≤ q ∧ q ≤ high else low < q ∧ q < high

section

variable {closed : Prop} [Decidable closed] {low high q other : ℚ}

/-- What lies in a range is not outside its ends. -/
theorem Between.bounds (between : Between closed low high q) : low ≤ q ∧ q ≤ high := by
  -- Whether the ends belong to it or not, they bound it.
  unfold Between at between
  split at between
  · exact between
  · exact ⟨between.1.le, between.2.le⟩

/-- What lies inside the ends is in the range, whether the ends are or not. -/
theorem between_of_lt (lower : low < q) (upper : q < high) : Between closed low high q := by
  -- What lies strictly between does not depend on the ends.
  unfold Between
  split
  · exact ⟨lower.le, upper.le⟩
  · exact ⟨lower, upper⟩

/-- A range with a lower end holds what it held. -/
theorem Between.lower (between : Between closed low high q) (below : other ≤ low) :
    Between closed other high q := by
  -- Whether the ends count stays as it is, and each of them is compared on its own.
  by_cases ends : closed
  · rw [Between, if_pos ends] at *
    exact ⟨below.trans between.1, between.2⟩
  · rw [Between, if_neg ends] at *
    exact ⟨below.trans_lt between.1, between.2⟩

/-- A range holds a number also when its lower end is moved, as long as that stays below. -/
theorem Between.from_below (between : Between closed low high q) (inside : other < q) :
    Between closed other high q := by
  -- The number is inside the new end, so it does not matter whether that counts.
  by_cases ends : closed
  · rw [Between, if_pos ends] at *
    exact ⟨inside.le, between.2⟩
  · rw [Between, if_neg ends] at *
    exact ⟨inside, between.2⟩

/-- A range that is stretched holds the numbers that are stretched alike. -/
theorem between_div_iff {unit : ℚ} (positive : 0 < unit) :
    Between closed low high (q / unit) ↔ Between closed (low * unit) (high * unit) q := by
  -- Both comparisons are multiplied out, whether they are strict or not.
  unfold Between
  rw [le_div_iff₀ positive, div_le_iff₀ positive, lt_div_iff₀ positive, div_lt_iff₀ positive]

/-- What lies above a number in the range and below another inside it is in the range. -/
theorem Between.up (between : Between closed low high q) (above : q ≤ other)
    (inside : other < high) : Between closed low high other := by
  -- The lower end is below the number that is known to be in the range.
  by_cases ends : closed
  · rw [Between, if_pos ends] at *
    exact ⟨between.1.trans above, inside.le⟩
  · rw [Between, if_neg ends] at *
    exact ⟨between.1.trans_le above, inside⟩

/-- What lies below a number in the range and above another inside it is in the range. -/
theorem Between.down (between : Between closed low high q) (below : other ≤ q)
    (inside : low < other) : Between closed low high other := by
  -- The upper end is above the number that is known to be in the range.
  by_cases ends : closed
  · rw [Between, if_pos ends] at *
    exact ⟨inside.le, below.trans between.2⟩
  · rw [Between, if_neg ends] at *
    exact ⟨inside, below.trans_lt between.2⟩

end

/-- A whole number no further than a half from a rational number, and even if just that far. -/
def IsNearest (q : ℚ) (n : Nat) : Prop :=
  Between (n % 2 = 0) (n - 1 / 2) (n + 1 / 2) q

/-- Of two neighbours only one is nearest, since just one of them is even. -/
theorem IsNearest.not_succ {q : ℚ} {n : Nat} (nearest : IsNearest q n) :
    ¬ IsNearest q (n + 1) := by
  intro next
  have most := nearest.bounds.2
  have least := next.bounds.1
  unfold IsNearest Between at nearest next
  push_cast at least next
  -- Both would be just a half away, where the odd one is not taken.
  split at nearest
  · rw [if_neg (by omega)] at next
    linarith
  · linarith

/-- There is one nearest whole number. -/
theorem IsNearest.unique {q : ℚ} {n other : Nat} (nearest : IsNearest q n)
    (also : IsNearest q other) : n = other := by
  have near := nearest.bounds
  have far := also.bounds
  -- Both are no further than a half away, so they are at most one apart.
  have below : n ≤ other + 1 := by
    have : (n : ℚ) ≤ other + 1 := by linarith
    exact_mod_cast this
  have above : other ≤ n + 1 := by
    have : (other : ℚ) ≤ n + 1 := by linarith
    exact_mod_cast this
  rcases Nat.lt_trichotomy n other with less | same | more
  · obtain rfl : other = n + 1 := by omega
    exact absurd also nearest.not_succ
  · exact same
  · obtain rfl : n = other + 1 := by omega
    exact absurd nearest also.not_succ

/-- A fraction is a whole number and a rest over the denominator. -/
theorem value_eq_div_add_mod (r : Ratio) :
    r.value = (r.num / r.den : Nat) + ((r.num % r.den : Nat) : ℚ) / r.den := by
  -- This is division with a rest, seen as rational numbers.
  have den := den_cast_pos r
  rw [Ratio.value, div_eq_iff den.ne', add_mul, div_mul_cancel₀ _ den.ne']
  exact_mod_cast (Nat.div_add_mod' r.num r.den).symm

/-- A fraction lies between its whole part and the next whole number. -/
theorem whole_bounds (r : Ratio) :
    (r.num / r.den : Nat) ≤ r.value ∧ r.value < (r.num / r.den : Nat) + 1 := by
  -- The rest is less than the denominator, so what it adds is less than one.
  have den := den_cast_pos r
  have rest : 0 ≤ ((r.num % r.den : Nat) : ℚ) / r.den := by positivity
  have short : ((r.num % r.den : Nat) : ℚ) / r.den < 1 := by
    rw [div_lt_one den]
    exact_mod_cast Nat.mod_lt r.num r.den_pos
  rw [value_eq_div_add_mod]
  constructor <;> linarith

/-- A rest of less than half the denominator is less than a half. -/
theorem two_mul_mod_lt_iff {r : Ratio} :
    2 * (r.num % r.den) < r.den ↔ r.value < (r.num / r.den : Nat) + 1 / 2 := by
  -- The whole part is on both sides, and what is left is compared crosswise.
  rw [value_eq_div_add_mod, add_lt_add_iff_left, div_lt_div_iff₀ (den_cast_pos r) two_pos, one_mul,
    mul_comm]
  exact_mod_cast Iff.rfl

/-- A rest of more than half the denominator is more than a half. -/
theorem lt_two_mul_mod_iff {r : Ratio} :
    r.den < 2 * (r.num % r.den) ↔ (r.num / r.den : Nat) + 1 / 2 < r.value := by
  rw [value_eq_div_add_mod, add_lt_add_iff_left, div_lt_div_iff₀ two_pos (den_cast_pos r), one_mul,
    mul_comm]
  exact_mod_cast Iff.rfl

/-- A fraction is rounded to the nearest whole number. -/
theorem isNearest_round (r : Ratio) : IsNearest r.value r.round := by
  obtain ⟨lower, upper⟩ := whole_bounds r
  rw [Ratio.round]
  split
  -- Less than a half is left, which is inside the range whatever the parity.
  · rename_i less
    have below := two_mul_mod_lt_iff.mp less
    exact between_of_lt (by linarith) below
  split
  -- More than a half is left, so the next whole number is the nearest.
  · rename_i more
    have above := lt_two_mul_mod_iff.mp more
    exact between_of_lt (by push_cast; linarith) (by push_cast; linarith)
  · -- Just a half is left, and the even one of the two neighbours is taken.
    rename_i less more
    have atLeast := not_lt.mp (mt two_mul_mod_lt_iff.mpr less)
    have atMost := not_lt.mp (mt lt_two_mul_mod_iff.mpr more)
    unfold IsNearest Between
    rw [if_pos (by omega)]
    rcases Nat.mod_two_eq_zero_or_one (r.num / r.den) with even | odd
    · rw [even]
      constructor <;> push_cast <;> linarith
    · rw [odd]
      constructor <;> push_cast <;> linarith

/-- A fraction is rounded to a whole number when that is the nearest. -/
theorem round_eq_iff {r : Ratio} {n : Nat} : r.round = n ↔ IsNearest r.value n := by
  -- Rounding gives a nearest number, and there is only one.
  constructor
  · rintro rfl
    exact isNearest_round r
  · intro nearest
    exact (isNearest_round r).unique nearest

/-- A power of two is reached by the whole part when the fraction reaches it. -/
theorem twoPow_le_div_iff {r : Ratio} {bits : Nat} :
    2 ^ bits ≤ r.num / r.den ↔ (2 : ℚ) ^ bits ≤ r.value := by
  rw [Nat.le_div_iff_mul_le r.den_pos, Ratio.value, le_div_iff₀ (den_cast_pos r)]
  exact_mod_cast Iff.rfl

/-- The shift leaves 53 bits of the whole part, or fewer where there is no shift. -/
theorem shift_eq_iff {r : Ratio} {shift : Nat} :
    (r.num / r.den).log2 - 52 = shift ↔
      (shift = 0 ∨ (2 : ℚ) ^ (52 + shift) ≤ r.value) ∧ r.value < 2 ^ (53 + shift) := by
  rw [← twoPow_le_div_iff, ← not_le, ← twoPow_le_div_iff, not_le]
  -- The logarithm of zero is taken as zero, so nothing is shifted.
  by_cases zero : r.num / r.den = 0
  · simp only [zero, Nat.log2_zero, Nat.zero_sub]
    have some : ∀ bits, ¬ 2 ^ bits ≤ 0 := fun bits => not_le.mpr (Nat.two_pow_pos bits)
    simp [some, eq_comm]
  -- Otherwise the powers of two around the whole part are those of its logarithm.
  · rw [← Nat.le_log2 zero, ← Nat.log2_lt zero]
    omega

namespace Magnitude

variable {m : Magnitude}

/-- A rational number no further from a magnitude than half a step, where the ends belong to the
magnitude if its significand is even. -/
def Holds (m : Magnitude) (q : ℚ) : Prop :=
  Between (m.significand % 2 = 0) (m.ratio.value - m.stepBelow / 2) (m.ratio.value + m.step / 2) q

/-- A positive magnitude covers the fractions of the numbers that it holds. -/
theorem covers_iff_holds (positive : 0 < m.significand) (r : Ratio) :
    m.covers r ↔ m.Holds r.value :=
  m.covers_iff positive r

/-- The part of a step below a magnitude from which numbers are rounded up to it. -/
def reach (m : Magnitude) : ℚ :=
  if m.significand = twoPow 52 ∧ 0 < m.shift then 1 / 4 else 1 / 2

/-- Numbers are rounded up over no more than half a step. -/
theorem reach_le (m : Magnitude) : m.reach ≤ 1 / 2 := by
  unfold reach
  split <;> norm_num

/-- What a magnitude holds is counted in its steps. -/
theorem holds_div_iff {units : ℚ} :
    m.Holds (units / 2 ^ 1074) ↔
      Between (m.significand % 2 = 0) (m.significand - m.reach) (m.significand + 1 / 2)
        (units / 2 ^ m.shift) := by
  have unit : (0 : ℚ) < 2 ^ 1074 := by positivity
  have power : (0 : ℚ) < 2 ^ m.shift := by positivity
  have below : m.stepBelow / 2 = m.reach * m.step := by
    unfold stepBelow reach
    split <;> ring
  -- Both ends are counted in units first, and then in steps.
  have low : m.ratio.value - m.stepBelow / 2 =
      (m.significand - m.reach) * 2 ^ m.shift / 2 ^ 1074 := by
    rw [below, value_ratio, ← sub_mul, step, mul_div_assoc]
  have high : m.ratio.value + m.step / 2 =
      (m.significand + 1 / 2) * 2 ^ m.shift / 2 ^ 1074 := by
    rw [value_ratio, step, mul_div_assoc, add_mul, one_div, inv_mul_eq_div]
  rw [Holds, low, high, between_div_iff unit, between_div_iff power,
    div_mul_cancel₀ _ unit.ne', div_mul_cancel₀ _ unit.ne']

variable {units : ℚ}

/-- The units that a magnitude holds are counted from where it reaches up to half a step above. -/
theorem Holds.units_bounds (holds : m.Holds (units / 2 ^ 1074)) :
    (m.significand - m.reach) * 2 ^ m.shift ≤ units ∧
      units ≤ (m.significand + 1 / 2) * 2 ^ m.shift := by
  have power : (0 : ℚ) < 2 ^ m.shift := by positivity
  exact ((between_div_iff power).mp (holds_div_iff.mp holds)).bounds

/-- A significand is nearest to the steps of the units that its magnitude holds. -/
theorem Holds.isNearest (holds : m.Holds (units / 2 ^ 1074)) :
    IsNearest (units / 2 ^ m.shift) m.significand :=
  -- The range around a significand reaches no further down than half a step.
  (holds_div_iff.mp holds).lower (sub_le_sub_left m.reach_le _)

/-- A magnitude holds the units to whose steps its significand is nearest, unless they lie below a
power of two where the steps are shorter. -/
theorem holds_of_isNearest (nearest : IsNearest (units / 2 ^ m.shift) m.significand)
    (full : m.shift = 0 ∨ 2 ^ (52 + m.shift) ≤ units) : m.Holds (units / 2 ^ 1074) := by
  have power : (0 : ℚ) < 2 ^ m.shift := by positivity
  rw [holds_div_iff]
  by_cases least : m.significand = twoPow 52 ∧ 0 < m.shift
  · -- A quarter of a step below a power of two is not needed, since nothing lies below it.
    have some : (2 : ℚ) ^ (52 + m.shift) ≤ units := full.resolve_left least.2.ne'
    have value : (m.significand : ℚ) = 2 ^ 52 := by rw [least.1, cast_twoPow]
    have above : (m.significand : ℚ) ≤ units / 2 ^ m.shift := by
      rwa [value, le_div_iff₀ power, ← pow_add]
    refine nearest.from_below (lt_of_lt_of_le (sub_lt_self _ ?_) above)
    rw [reach, if_pos least]
    norm_num
  -- Everywhere else the steps below are as long as those above.
  · have half : m.reach = 1 / 2 := if_neg least
    rw [half]
    exact nearest

/-- Just below a power of two, numbers are rounded to it over the shorter steps. -/
theorem holds_carry_iff {shift : Nat} (least : m.significand = twoPow 52)
    (shifted : m.shift = shift + 1) (below : units < 2 ^ (53 + shift)) :
    m.Holds (units / 2 ^ 1074) ↔ IsNearest (units / 2 ^ shift) (twoPow 53) := by
  have power : (0 : ℚ) < 2 ^ shift := by positivity
  have even : m.significand % 2 = 0 ∧ twoPow 53 % 2 = 0 := by
    rw [least]
    decide
  have reach : m.reach = 1 / 4 := if_pos ⟨least, by omega⟩
  have half : units / 2 ^ (shift + 1) = units / 2 ^ shift / 2 := by
    rw [pow_succ, div_div]
  have short : units / 2 ^ shift < 2 ^ 53 := by
    rwa [div_lt_iff₀ power, ← pow_add]
  -- The ends above are not reached, and those below are the same.
  rw [holds_div_iff, IsNearest, Between, Between, if_pos even.1, if_pos even.2, reach, least,
    shifted, half, cast_twoPow, cast_twoPow]
  constructor
  · rintro ⟨lower, -⟩
    exact ⟨by linarith, by linarith⟩
  · rintro ⟨lower, -⟩
    exact ⟨by linarith, by linarith⟩

/-- Units that a magnitude holds have no more bits than it. -/
theorem Holds.units_lt (holds : m.Holds (units / 2 ^ 1074)) : units < 2 ^ (53 + m.shift) := by
  -- Half a step above the greatest significand is still short of the next power of two.
  have power : (0 : ℚ) < 2 ^ m.shift := by positivity
  have most : (m.significand : ℚ) + 1 ≤ 2 ^ 53 := by exact_mod_cast m.significand_lt
  have stretched := mul_le_mul_of_nonneg_right most power.le
  rw [pow_add]
  linarith [holds.units_bounds.2]

/-- Units that have fewer bits than the magnitude that holds them are just below a power of two. -/
theorem Holds.least (holds : m.Holds (units / 2 ^ 1074)) (shifted : m.shift ≠ 0)
    (below : units < 2 ^ (52 + m.shift)) : m.significand = twoPow 52 := by
  -- With more than the least significand, even the lower end has all the bits.
  have power : (0 : ℚ) < 2 ^ m.shift := by positivity
  have fits : (m.significand : ℚ) < 2 ^ 52 + 1 := by
    by_contra! more
    have stretched := mul_le_mul_of_nonneg_right more power.le
    have reach := mul_le_mul_of_nonneg_right m.reach_le power.le
    rw [pow_add] at below
    linarith [holds.units_bounds.1]
  refine le_antisymm ?_ (m.canonical.resolve_left shifted)
  exact Nat.lt_add_one_iff.mp (by exact_mod_cast fits)

/-- Units just below a power of two have one bit less. -/
theorem Holds.units_ge {shift : Nat} (holds : m.Holds (units / 2 ^ 1074))
    (least : m.significand = twoPow 52) (shifted : m.shift = shift + 1) :
    2 ^ (52 + shift) ≤ units := by
  -- A quarter of a step below the power of two is far from half of it.
  have power : (0 : ℚ) < 2 ^ shift := by positivity
  have lower := holds.units_bounds.1
  have reach := mul_le_mul_of_nonneg_right m.reach_le (by positivity : (0 : ℚ) ≤ 2 ^ m.shift)
  rw [least, shifted, cast_twoPow] at lower
  rw [shifted] at reach
  rw [pow_succ (2 : ℚ) shift] at lower reach
  rw [pow_add]
  linarith

/-- Parts are those of a magnitude when they are its significand and shift. -/
theorem ofParts?_eq_some_iff {significand shift : Nat} :
    ofParts? significand shift = some m ↔ m.significand = significand ∧ m.shift = shift := by
  unfold ofParts?
  constructor
  -- The parts are only put together where they meet the bounds of a magnitude.
  · intro parts
    split at parts
    · cases parts
      exact ⟨rfl, rfl⟩
    · cases parts
  · rintro ⟨rfl, rfl⟩
    exact dif_pos ⟨m.significand_lt, m.shift_le, m.canonical⟩

/-- A count of units is rounded to a magnitude when the magnitude holds it. -/
theorem nearest?_eq_some_iff {units : Ratio} :
    nearest? units = some m ↔ m.Holds (units.value / 2 ^ 1074) := by
  obtain ⟨shift, shifted⟩ : ∃ shift, (units.num / units.den).log2 - 52 = shift := ⟨_, rfl⟩
  have steps : (Ratio.mk units.num (units.den * twoPow shift)
      (Nat.mul_pos units.den_pos (twoPow_pos shift))).value = units.value / 2 ^ shift := by
    simp only [Ratio.value, Nat.cast_mul, cast_twoPow, div_div]
  have bounds := shift_eq_iff.mp shifted
  have rounded := @round_eq_iff ⟨units.num, units.den * twoPow shift,
    Nat.mul_pos units.den_pos (twoPow_pos shift)⟩
  simp only [steps] at rounded
  simp only [nearest?, shifted]
  constructor
  -- What is found has the shift of the units, or one more if rounding carries.
  · intro found
    split at found
    · -- Rounding carries into the next power of two.
      rename_i carried
      obtain ⟨least, next⟩ := ofParts?_eq_some_iff.mp found
      exact (holds_carry_iff least next bounds.2).mpr (rounded.mp carried)
    · obtain ⟨significand, same⟩ := ofParts?_eq_some_iff.mp found
      apply holds_of_isNearest
      · rw [same, significand]
        exact rounded.mp rfl
      · rw [same]
        exact bounds.1
  -- The magnitude that holds the units decides which of the two happened.
  · intro holds
    by_cases full : m.shift = 0 ∨ (2 : ℚ) ^ (52 + m.shift) ≤ units.value
    · -- The shift is that of the magnitude, and so is the significand.
      obtain rfl : m.shift = shift :=
        (shift_eq_iff.mpr ⟨full, holds.units_lt⟩).symm.trans shifted
      rw [rounded.mpr holds.isNearest, if_neg m.significand_lt.ne]
      exact ofParts?_eq_some_iff.mpr ⟨rfl, rfl⟩
    · -- The units are rounded up to a power of two, which carries into the shift.
      obtain ⟨some, below⟩ := not_or.mp full
      rw [not_le] at below
      have least := holds.least some below
      obtain ⟨less, next⟩ := Nat.exists_eq_succ_of_ne_zero some
      have fewer : units.value < 2 ^ (53 + less) := by
        rwa [next, Nat.add_succ, ← Nat.succ_add] at below
      obtain rfl : less = shift :=
        (shift_eq_iff.mpr ⟨.inr (holds.units_ge least next), fewer⟩).symm.trans shifted
      refine (if_pos (rounded.mpr ((holds_carry_iff least next fewer).mp holds))).trans ?_
      exact ofParts?_eq_some_iff.mpr ⟨least, next⟩

/-- A positive magnitude is at least one step. -/
theorem step_le_value (positive : 0 < m.significand) : m.step ≤ m.ratio.value := by
  -- A positive significand counts at least one step.
  rw [value_ratio]
  exact le_mul_of_one_le_left m.step_pos.le (by exact_mod_cast positive)

/-- What a positive magnitude holds is at least half of it and at most twice as much. -/
theorem Holds.bounds {q : ℚ} (holds : m.Holds q) (positive : 0 < m.significand) :
    m.ratio.value / 2 ≤ q ∧ q ≤ 2 * m.ratio.value := by
  -- Half a step is no more than half of the magnitude.
  obtain ⟨lower, upper⟩ := Between.bounds holds
  have step := step_le_value positive
  have below := m.stepBelow_le
  constructor <;> linarith

/-- A positive magnitude is at least one unit and below 2 ^ 1024. -/
theorem value_bounds (positive : 0 < m.significand) :
    1 / 2 ^ 1074 ≤ m.ratio.value ∧ m.ratio.value < 2 ^ 1024 := by
  -- A significand has at most 53 bits, and no shift takes it beyond the 1024 bits of the range.
  have unit : (0 : ℚ) < 2 ^ 1074 := by positivity
  rw [value_ratio, step, ← mul_div_assoc]
  constructor
  · rw [div_le_div_iff_of_pos_right unit]
    have some : (1 : ℚ) ≤ m.significand := by exact_mod_cast positive
    exact one_le_mul_of_one_le_of_one_le some (one_le_pow₀ one_le_two)
  · rw [div_lt_iff₀ unit, ← pow_add]
    calc (m.significand : ℚ) * 2 ^ m.shift
        < 2 ^ 53 * 2 ^ m.shift := by
          gcongr
          exact_mod_cast m.significand_lt
      _ = 2 ^ (53 + m.shift) := (pow_add 2 53 m.shift).symm
      _ ≤ 2 ^ (1024 + 1074) := pow_le_pow_right₀ one_le_two (by have := m.shift_le; omega)

end Magnitude

/-- The magnitude that a literal spells, as it stands. -/
def Literal.magnitude (literal : Literal) : ℚ :=
  literal.digits * 10 ^ literal.exponent

/-- The value that a literal spells, as it stands. -/
def Literal.value (literal : Literal) : ℚ :=
  if literal.negative then -literal.magnitude else literal.magnitude

namespace Literal

variable {literal : Literal} {negative : Bool} {m : Magnitude}

/-- A literal spells a magnitude between the powers of ten of its first digit and above it. -/
theorem magnitude_bounds (some : 0 < literal.digits) :
    (10 : ℚ) ^ (digitCount literal.digits + literal.exponent - 1) ≤ literal.magnitude ∧
      literal.magnitude < 10 ^ (digitCount literal.digits + literal.exponent) := by
  have count : 0 < digitCount literal.digits := Nat.length_toDigits_pos
  obtain ⟨lower, upper⟩ := digitCount_bounds some
  -- The digits are bounded by powers of ten, and the exponent moves both bounds.
  have power : (0 : ℚ) < 10 ^ literal.exponent := zpow_pos (by norm_num) _
  constructor
  · rw [show (digitCount literal.digits : Int) + literal.exponent - 1 =
      ((digitCount literal.digits - 1 : Nat) : Int) + literal.exponent by omega,
      zpow_add₀ (by norm_num), zpow_natCast, magnitude]
    exact mul_le_mul_of_nonneg_right (by exact_mod_cast lower) power.le
  · rw [zpow_add₀ (by norm_num), zpow_natCast, magnitude]
    gcongr
    exact_mod_cast upper

/-- A literal spells no magnitude only where its digits are zeros. -/
theorem magnitude_pos_iff : 0 < literal.magnitude ↔ 0 < literal.digits := by
  rw [magnitude, mul_pos_iff_of_pos_right (zpow_pos (by norm_num) _), Nat.cast_pos]

/-- Powers of two that make up the range are below a power of ten. -/
theorem pow_two_lt_pow_ten {bits : Nat} (fits : bits ≤ 3 * 400) :
    (2 : ℚ) ^ bits < 10 ^ (400 : Int) := calc
  -- Three bits are less than a digit.
  (2 : ℚ) ^ bits ≤ 2 ^ (3 * 400) := pow_le_pow_right₀ one_le_two fits
  _ = (2 ^ 3) ^ 400 := pow_mul 2 3 400
  _ < 10 ^ 400 := pow_lt_pow_left₀ (by norm_num) (by norm_num) (by decide)
  _ = 10 ^ (400 : Int) := (zpow_natCast 10 400).symm

/-- What a positive magnitude holds is spelled with its first digit between the powers of ten that
are computed. -/
theorem digitCount_bounds_of_holds (positive : 0 < m.significand)
    (holds : m.Holds literal.magnitude) :
    0 < literal.digits ∧ ¬ 400 < digitCount literal.digits + literal.exponent ∧
      ¬ digitCount literal.digits + literal.exponent < -400 := by
  obtain ⟨lower, upper⟩ := holds.bounds positive
  obtain ⟨least, most⟩ := m.value_bounds positive
  have value : 0 < m.ratio.value := m.value_ratio_pos_iff.mpr positive
  have some : 0 < literal.digits := magnitude_pos_iff.mp (by linarith)
  obtain ⟨first, next⟩ := magnitude_bounds some
  refine ⟨some, ?_, ?_⟩
  -- So many digits would be more than twice the greatest magnitude.
  · intro large
    have reached : literal.magnitude < literal.magnitude := calc
      literal.magnitude ≤ 2 * m.ratio.value := upper
      _ < 2 * 2 ^ 1024 := mul_lt_mul_of_pos_left most two_pos
      _ = 2 ^ 1025 := (pow_succ' 2 1024).symm
      _ < 10 ^ (400 : Int) := pow_two_lt_pow_ten (by decide)
      _ ≤ 10 ^ (digitCount literal.digits + literal.exponent - 1) :=
        zpow_le_zpow_right₀ (by norm_num) (by omega)
      _ ≤ literal.magnitude := first
    exact lt_irrefl _ reached
  -- So few digits would be less than half of the least magnitude.
  · intro small
    have reached : literal.magnitude < literal.magnitude := calc
      literal.magnitude < 10 ^ (digitCount literal.digits + literal.exponent) := next
      _ ≤ 10 ^ (-400 : Int) := zpow_le_zpow_right₀ (by norm_num) (by omega)
      _ = (10 ^ (400 : Int))⁻¹ := zpow_neg 10 400
      _ < (2 ^ 1075)⁻¹ := inv_strictAnti₀ (by positivity) (pow_two_lt_pow_ten (by decide))
      _ = 1 / 2 ^ 1074 / 2 := by rw [pow_succ, mul_inv, one_div, div_eq_mul_inv]
      _ ≤ m.ratio.value / 2 := div_le_div_of_nonneg_right least two_pos.le
      _ ≤ literal.magnitude := lower
    exact lt_irrefl _ reached

end Literal

/-- A fraction counted in smaller units is that many times as large. -/
theorem value_mul_twoPow (r : Ratio) (bits : Nat) :
    (Ratio.mk (r.num * twoPow bits) r.den r.den_pos).value / 2 ^ bits = r.value := by
  have unit : (2 : ℚ) ^ bits ≠ 0 := by positivity
  rw [Ratio.value, Nat.cast_mul, cast_twoPow, mul_div_right_comm, mul_div_cancel_right₀ _ unit,
    Ratio.value]

/-- A count of units is rounded to its sign and the nearest magnitude. -/
theorem Binary64.ofUnits_eq_iff {negative sign : Bool} {units : Ratio} {m : Magnitude} :
    Binary64.ofUnits negative units = .finite sign m ↔
      negative = sign ∧ Magnitude.nearest? units = some m := by
  -- The sign is passed on, with the nearest magnitude or with infinity.
  unfold ofUnits
  cases Magnitude.nearest? units with
  | none => simp
  | some nearest => simp

/-- A fraction is rounded to a magnitude when the magnitude holds its value. -/
theorem Binary64.ofRatio_eq_iff {negative sign : Bool} {r : Ratio} {m : Magnitude} :
    Binary64.ofRatio negative r = .finite sign m ↔ negative = sign ∧ m.Holds r.value := by
  rw [ofRatio, ofUnits_eq_iff, Magnitude.nearest?_eq_some_iff, value_mul_twoPow r 1074]

namespace Literal

variable {literal : Literal} {negative : Bool} {m : Magnitude}

/-- A literal is read as a positive magnitude when the magnitude holds what it spells. -/
theorem toBinary64_eq_iff (positive : 0 < m.significand) :
    literal.toBinary64 = .finite negative m ↔
      literal.negative = negative ∧ m.Holds literal.magnitude := by
  have value :
      ((Ratio.ofNat literal.digits).scaled literal.exponent).value = literal.magnitude := by
    rw [value_scaled, value_ofNat, magnitude]
  -- The shortcuts lead to zeros and infinities only.
  have zero : ∀ sign, Binary64.finite sign .zero ≠ .finite negative m := by
    rintro sign same
    cases same
    exact absurd positive (by decide)
  rw [toBinary64, Binary64.ofDecimal]
  constructor
  · intro read
    split at read
    · exact absurd read (zero _)
    split at read
    · exact absurd read nofun
    split at read
    · exact absurd read (zero _)
    · rwa [← value, ← Binary64.ofRatio_eq_iff]
  · rintro ⟨sign, holds⟩
    obtain ⟨some, below, above⟩ := digitCount_bounds_of_holds positive holds
    rw [if_neg some.ne', if_neg below, if_neg above, Binary64.ofRatio_eq_iff, value]
    exact ⟨sign, holds⟩

/-- A positive value shows the sign and the magnitude of a literal. -/
theorem eq_of_value_eq {other : Literal} (some : 0 < literal.digits)
    (same : other.value = literal.value) :
    other.negative = literal.negative ∧ other.magnitude = literal.magnitude := by
  have positive := magnitude_pos_iff.mpr some
  -- The value has the sign of the literal, since its magnitude is not negative.
  have least : 0 ≤ other.magnitude :=
    mul_nonneg (Nat.cast_nonneg _) (zpow_pos (by norm_num) _).le
  unfold value at same
  split at same
  · split at same
    · rename_i sign minus
      exact ⟨sign.trans minus.symm, neg_inj.mp same⟩
    · linarith
  · split at same
    · linarith
    · rename_i sign plus
      exact ⟨(Bool.not_eq_true _ ▸ sign).trans (Bool.not_eq_true _ ▸ plus).symm, same⟩

/-- Literals of the same value are read as the same number. -/
theorem toBinary64_eq_of_value_eq {other : Literal} (positive : 0 < m.significand)
    (read : literal.toBinary64 = .finite negative m) (same : other.value = literal.value) :
    other.toBinary64 = .finite negative m := by
  -- A literal is rounded by its value alone.
  obtain ⟨sign, holds⟩ := (toBinary64_eq_iff positive).mp read
  obtain ⟨minus, magnitude⟩ :=
    eq_of_value_eq (digitCount_bounds_of_holds positive holds).1 same
  rw [toBinary64_eq_iff positive, minus, magnitude]
  exact ⟨sign, holds⟩

end Literal

end TextTemplate
