import TextTemplate.Number.Basic
import TextTemplate.Proofs.Number.FewestDigits

/-! The integer part of a number is that of its value, except where 64 bits do not hold it. -/

namespace TextTemplate

/-- The integer part of a rational number, which is rounded toward zero. -/
def towardZero (q : ℚ) : Int :=
  if 0 ≤ q then ⌊q⌋ else ⌈q⌉

/-- The integer of 64 bits that is nearest to an integer. -/
def saturated (n : Int) : Int :=
  max Int64.minValue.toInt (min n Int64.maxValue.toInt)

/-- The value of a number that has one. -/
def Number.value? : Number → Option ℚ
  | .int n => some n.toInt
  | .float x => x.value?

/-- The integer part of an integer is the integer. -/
theorem towardZero_intCast (n : Int) : towardZero n = n := by
  -- Rounding down and rounding up leave an integer as it is.
  simp only [towardZero, Int.floor_intCast, Int.ceil_intCast, ite_self]

/-- Below zero, the integer part is that of the opposite number with a minus. -/
theorem towardZero_neg {q : ℚ} (nonnegative : 0 ≤ q) : towardZero (-q) = -⌊q⌋ := by
  unfold towardZero
  rw [Int.ceil_neg]
  split
  · -- Only zero is not below zero on both sides.
    rename_i opposite
    obtain rfl : q = 0 := le_antisymm (neg_nonneg.mp opposite) nonnegative
    simp
  · rfl

/-- The integer part of a number that is not negative is not negative either. -/
theorem towardZero_nonneg {q : ℚ} (nonnegative : 0 ≤ q) : 0 ≤ towardZero q := by
  -- From zero on, rounding toward zero is rounding down.
  rw [towardZero, if_pos nonnegative]
  exact Int.floor_nonneg.mpr nonnegative

/-- The nearest integer of 64 bits lies between their bounds. -/
theorem saturated_eq (n : Int) :
    saturated n = max (-9223372036854775808) (min n 9223372036854775807) := rfl

/-- An integer is the nearest one of 64 bits to itself where it is one of them. -/
theorem saturated_eq_iff (n : Int) : saturated n = n ↔ fitsInt64 n := by
  rw [fitsInt64_iff, saturated_eq]
  omega

/-- The nearest integer of 64 bits has another absolute value where it is another. -/
theorem natAbs_saturated_eq_iff (n : Int) : (saturated n).natAbs = n.natAbs ↔ fitsInt64 n := by
  rw [fitsInt64_iff, saturated_eq]
  omega

/-- The nearest integer of 64 bits has the sign of the integer. -/
theorem saturated_neg_iff (n : Int) : saturated n < 0 ↔ n < 0 := by
  rw [saturated_eq]
  omega

/-- An even integer beyond 64 bits ends in the same 32 bits as the nearest of 64 bits only where it
is negative and ends in zeros. -/
theorem lastBits_saturated_iff {n : Int} (even : ¬ fitsInt64 n → n % 2 = 0) :
    (saturated n % 0x100000000).toNat = (n % 0x100000000).toNat ↔
      fitsInt64 n ∨ n < 0 ∧ n % 0x100000000 = 0 := by
  rw [fitsInt64_iff] at even ⊢
  rw [saturated_eq]
  -- The greatest integer ends in a one, and the least in 32 zeros.
  omega

/-- A fraction is at least zero. -/
theorem value_nonneg (r : Ratio) : 0 ≤ r.value :=
  div_nonneg (Nat.cast_nonneg _) (Nat.cast_nonneg _)

/-- The integer part of a fraction is a whole quotient. -/
theorem floor_value (r : Ratio) : ⌊r.value⌋ = (r.num / r.den : Nat) := by
  rw [Ratio.value, Rat.floor_natCast_div_natCast, Int.natCast_ediv]

/-- The integer part of a finite number is that of its value. -/
theorem Binary64.truncate?_eq {x : Binary64} {q : ℚ} (exact : x.value? = some q) :
    x.truncate? = some (towardZero q) := by
  cases x with
  | nan | infinite => contradiction
  | finite negative m =>
    obtain rfl := Option.some.inj exact
    have nonnegative := value_nonneg m.ratio
    have whole : ⌊m.ratio.value⌋ = (m.units / twoPow 1074 : Nat) := by
      rw [floor_value]
      simp only [Magnitude.ratio]
    rw [truncate?]
    -- The quotient of the units is the absolute value of the integer part.
    cases negative with
    | false =>
      rw [if_neg Bool.false_ne_true, towardZero, if_pos nonnegative, whole]
      rfl
    | true =>
      rw [if_pos rfl, towardZero_neg nonnegative, whole]
      rfl

/-- What a power of two brings above a significand ends in a zero bit. -/
theorem even_quotient {significand shift places : Nat}
    (large : significand < significand * twoPow shift / twoPow places) :
    significand * twoPow shift / twoPow places % 2 = 0 := by
  have positive := twoPow_pos places
  by_cases narrow : shift ≤ places
  · -- A shift to the right leaves no more than the significand.
    have power : twoPow shift ≤ twoPow places := Nat.pow_le_pow_right (by decide) narrow
    have bound := Nat.mul_le_mul_left significand power
    exact absurd large (not_lt.mpr (Nat.div_le_of_le_mul (Nat.mul_comm significand _ ▸ bound)))
  · -- A shift to the left brings a factor of two at least.
    obtain ⟨further, rfl⟩ := Nat.exists_eq_add_of_lt (not_le.mp narrow)
    have power : twoPow (places + further + 1) = twoPow places * (2 * twoPow further) := by
      simp only [twoPow, Nat.pow_eq, Nat.pow_add, Nat.pow_one]
      ring
    rw [power, Nat.mul_left_comm, Nat.mul_div_cancel_left _ positive, Nat.mul_left_comm,
      Nat.mul_mod_right]

/-- The value of a finite number has its magnitude. -/
theorem Binary64.abs_value {negative : Bool} {m : Magnitude} {q : ℚ}
    (exact : (finite negative m).value? = some q) : |q| = m.ratio.value := by
  -- A sign is all that the value adds to the magnitude.
  have least := value_nonneg m.ratio
  obtain rfl := Option.some.inj exact
  cases negative with
  | false => exact abs_of_nonneg least
  | true => exact (abs_neg _).trans (abs_of_nonneg least)

/-- A finite number has a significand where its value is not zero. -/
theorem Binary64.significand_pos_iff {negative : Bool} {m : Magnitude} {q : ℚ}
    (exact : (finite negative m).value? = some q) : 0 < m.significand ↔ q ≠ 0 := by
  rw [← m.value_ratio_pos_iff, ← abs_value exact, abs_pos]

/-- A finite number with a significand has a minus where its value is below zero. -/
theorem Binary64.negative_eq {negative : Bool} {m : Magnitude} (positive : 0 < m.significand)
    {q : ℚ} (exact : (finite negative m).value? = some q) : negative = decide (q < 0) := by
  -- The magnitude is positive, so that the sign decides.
  have some : 0 < m.ratio.value := m.value_ratio_pos_iff.mpr positive
  obtain rfl := Option.some.inj exact
  cases negative with
  | false => exact (decide_eq_false (not_lt.mpr some.le)).symm
  | true => exact (decide_eq_true (neg_neg_of_pos some)).symm

/-- A finite number is at least zero where its value is. -/
theorem Binary64.nonnegative_iff {x : Binary64} {q : ℚ} (exact : x.value? = some q) :
    x.nonnegative ↔ 0 ≤ q := by
  cases x with
  | nan | infinite => contradiction
  | finite negative m =>
    obtain rfl := Option.some.inj exact
    -- With a minus, only zero is not below zero.
    have zero : m.significand = 0 ↔ m.ratio.value ≤ 0 := by
      rw [← not_lt, m.value_ratio_pos_iff, Nat.pos_iff_ne_zero, not_not]
    cases negative with
    | false => simp [nonnegative, value_nonneg]
    | true => simp [nonnegative, zero]

namespace Number

variable {number : Number} {q : ℚ}

/-- The integer part of a number is that of its value, or the nearest one of 64 bits. -/
theorem truncate?_saturated (exact : number.value? = some q) :
    number.truncate? = some (saturated (towardZero q)) := by
  cases number with
  -- An integer is its own integer part, and is cut by no bound.
  | int n =>
    obtain rfl := Option.some.inj exact
    rw [towardZero_intCast, (saturated_eq_iff _).mpr (fitsInt64_toInt n)]
    rfl
  | float x =>
    rw [truncate?, x.truncate?_eq exact, Option.map_some, saturated]
    -- The two bounds are in order, so it does not matter which of them is tried first.
    have order : Int64.minValue.toInt ≤ Int64.maxValue.toInt := by decide
    congr 1
    split
    · omega
    · split <;> omega

/-- A number is at least zero where its value is. -/
theorem nonnegative_iff (exact : number.value? = some q) : number.nonnegative ↔ 0 ≤ q := by
  -- An integer is its value, and a floating point number has its own lemma.
  cases number with
  | int n =>
    obtain rfl := Option.some.inj exact
    simp [nonnegative]
  | float x => exact x.nonnegative_iff exact

/-- An integer part that 64 bits do not hold is even. -/
theorem even_of_not_fits (exact : number.value? = some q) (beyond : ¬ fitsInt64 (towardZero q)) :
    towardZero q % 2 = 0 := by
  cases number with
  | int n =>
    obtain rfl := Option.some.inj exact
    rw [towardZero_intCast] at beyond
    exact absurd (fitsInt64_toInt n) beyond
  | float x =>
    have whole := x.truncate?_eq exact
    cases x with
    | nan | infinite => contradiction
    | finite negative m =>
      have whole := Option.some.inj whole
      -- No significand reaches beyond 64 bits by itself.
      have narrow := m.significand_lt
      have even : m.significand < m.units / twoPow 1074 → m.units / twoPow 1074 % 2 = 0 :=
        even_quotient
      rw [fitsInt64_iff] at beyond
      unfold signedInt at whole
      generalize m.units / twoPow 1074 = units at whole even
      split at whole <;> omega

/-- A number with an integer part has a value. -/
theorem exists_value? {n : Int} (whole : number.truncate? = some n) :
    ∃ q, number.value? = some q := by
  -- Only what is infinite or no number has no integer part, and it has no value either.
  cases number with
  | int n => exact ⟨_, rfl⟩
  | float x =>
    cases x with
    | nan | infinite => contradiction
    | finite negative m => exact ⟨_, rfl⟩

/-- The integer part of a number is negative only where the number is. -/
theorem nonnegative_of_truncate? {n : Int} (whole : number.truncate? = some n)
    (negative : n < 0) : number.nonnegative = false := by
  -- Neither truncating nor cutting a value from zero on leads below zero.
  obtain ⟨q, exact⟩ := exists_value? whole
  rw [truncate?_saturated exact, Option.some.injEq] at whole
  rw [← whole, saturated_neg_iff] at negative
  refine Bool.eq_false_iff.mpr fun nonnegative => ?_
  have := towardZero_nonneg ((nonnegative_iff exact).mp nonnegative)
  omega

end Number

end TextTemplate
