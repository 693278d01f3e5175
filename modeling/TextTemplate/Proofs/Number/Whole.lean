import TextTemplate.Number.Text
import TextTemplate.Proofs.Number.Shortest

/-! A whole floating point number of up to 2 ^ 53 is shown like the integer of its value. -/

namespace TextTemplate

/-- An integer is made up of its sign and its absolute value. -/
theorem signedInt_natAbs (n : Int) : signedInt (n < 0) n.natAbs = n := by
  -- The sign is the only thing that the absolute value loses.
  simp only [signedInt, decide_eq_true_eq]
  split <;> omega

/-- An integer is written as its sign and its digits. -/
theorem repr_toList (n : Int) :
    n.repr.toList = minusSign (n < 0) ++ Nat.toDigits 10 n.natAbs := by
  -- Integers are represented apart below zero and from zero on.
  cases n with
  | ofNat n => simp [Int.repr, Nat.repr, minusSign]
  | negSucc n => simp [Int.repr, Nat.repr, minusSign, Int.negSucc_lt_zero]

/-- Integers are told apart by their text. -/
theorem repr_inj {n other : Int} : n.repr = other.repr ↔ n = other := by
  refine ⟨fun same => ?_, congrArg Int.repr⟩
  -- No digit is a minus, so that both have one or none of them.
  have unsigned {number : Nat} {digits : List Char} :
      Nat.toDigits 10 number ≠ '-' :: digits := by
    intro same
    have minus : '-' ∈ Nat.toDigits 10 number := by simp [same]
    exact absurd (Nat.isDigit_of_mem_toDigits (by decide) (by decide) minus) (by decide)
  rw [← String.toList_inj, repr_toList, repr_toList, minusSign, minusSign] at same
  simp only [decide_eq_true_eq] at same
  split_ifs at same with negative also also
  -- Both are negative, and their digits tell their absolute values.
  · have digits := toDigits_inj.mp (List.append_cancel_left same)
    omega
  · exact absurd same.symm unsigned
  · exact absurd same unsigned
  · have digits := toDigits_inj.mp same
    omega

/-- A power of two is a smaller one times what is left. -/
theorem twoPow_split {bits total : Nat} (fits : bits ≤ total) :
    2 ^ bits * twoPow (total - bits) = twoPow total :=
  pow_mul_pow_sub 2 fits

/-- Powers of two are multiplied by adding their exponents. -/
theorem twoPow_add (bits more : Nat) : twoPow (bits + more) = 2 ^ bits * twoPow more :=
  pow_add 2 bits more

namespace Magnitude

variable {m : Magnitude} {n : Nat}

/-- A magnitude is whole when a whole number counts its units. -/
theorem value_eq_iff : m.ratio.value = n ↔ m.units = n * twoPow 1074 := by
  -- A magnitude counts its units, of which one makes up 2 ^ 1074.
  constructor
  · intro whole
    simpa only [ratio] using num_eq_mul_den whole
  · intro units
    have unit : (0 : ℚ) < 2 ^ 1074 := by positivity
    rw [Ratio.value, ratio, units, Nat.cast_mul, cast_twoPow, mul_div_cancel_right₀ _ unit.ne']

/-- A whole magnitude is zero when its number is. -/
theorem significand_eq_zero_iff (whole : m.ratio.value = n) : m.significand = 0 ↔ n = 0 := by
  have positive := m.significand_pos_iff whole
  omega

/-- A whole number of up to 2 ^ 53 is written in text with its own digits. -/
theorem write_whole (whole : m.ratio.value = n) (positive : 0 < n) (small : n ≤ 2 ^ 53) :
    Layout.text.write m = Nat.toDigits 10 n := by
  have some : 0 < digitCount n := Nat.length_toDigits_pos
  have seventeen := digitCount_le_seventeen small
  have exponent : (Scientific.ofScaled n 0).trimmed.exponent = (digitCount n : Int) - 1 :=
    sub_zero _
  -- Seventeen digits are too few for a power of ten to be written out.
  simp only [Layout.write, Layout.text, shortest_whole _ whole positive small, exponent,
    Scientific.plain_trimmed, ite_self, List.append_nil]
  rw [if_pos (by omega)]

/-- Every whole number of up to 2 ^ 53 has a magnitude, also with zero bits behind it. -/
theorem exists_whole_mul {zeros : Nat} (small : n ≤ 2 ^ 53) (fits : zeros ≤ 970) :
    ∃ m : Magnitude, m.ratio.value = (n * 2 ^ zeros : Nat) := by
  simp only [value_eq_iff, units]
  rcases Nat.eq_zero_or_pos n with rfl | positive
  · exact ⟨.zero, by rw [zero, Nat.zero_mul, Nat.zero_mul, Nat.zero_mul]⟩
  rcases small.eq_or_lt with rfl | small
  -- The greatest number takes one bit more than a significand has, which goes to the shift.
  · refine ⟨⟨2 ^ 52, zeros + 1 + 1074, by decide, by omega, .inr (by decide)⟩, ?_⟩
    rw [twoPow_add, ← Nat.mul_assoc, ← pow_add, ← pow_add, Nat.add_left_comm,
      Nat.add_comm zeros]
  · -- The leading bit is moved up to the top of the significand.
    obtain ⟨bits, full⟩ := Nat.exists_eq_add_of_le
      (Nat.lt_succ_iff.mp ((Nat.log2_lt positive.ne').mpr small))
    have lower : 2 ^ 52 ≤ n * 2 ^ bits := calc
      2 ^ 52 = 2 ^ n.log2 * 2 ^ bits := by rw [← pow_add, ← full]
      _ ≤ n * 2 ^ bits := Nat.mul_le_mul_right _ (Nat.log2_self_le positive.ne')
    have upper : n * 2 ^ bits < 2 ^ 53 := calc
      n * 2 ^ bits < 2 ^ (n.log2 + 1) * 2 ^ bits :=
        Nat.mul_lt_mul_of_pos_right Nat.lt_log2_self (Nat.two_pow_pos bits)
      _ = 2 ^ 53 := by rw [← pow_add, Nat.add_right_comm, ← full]
    have power : 2 ^ bits * twoPow (zeros + 1074 - bits) = 2 ^ zeros * twoPow 1074 :=
      (twoPow_split (by omega)).trans (twoPow_add zeros 1074)
    refine ⟨⟨n * 2 ^ bits, zeros + 1074 - bits, upper, by omega, .inr lower⟩, ?_⟩
    rw [Nat.mul_assoc, power, Nat.mul_assoc]

/-- Every whole number of up to 2 ^ 53 has a magnitude. -/
theorem exists_whole (small : n ≤ 2 ^ 53) : ∃ m : Magnitude, m.ratio.value = n :=
  Nat.mul_one n ▸ exists_whole_mul small (Nat.zero_le 970)

end Magnitude

/-- Whether a floating point number has the value of an integer, where zero has no sign. -/
def Binary64.IsInteger (x : Binary64) (n : Int) : Prop :=
  ∃ m : Magnitude, x = .finite (n < 0) m ∧ m.ratio.value = n.natAbs

/-- Units that have a nearest magnitude are those of a finite number. -/
theorem Binary64.ofUnits_eq {negative : Bool} {units : Ratio} {m : Magnitude}
    (nearest : Magnitude.nearest? units = some m) :
    Binary64.ofUnits negative units = .finite negative m := by
  -- The sign is put on what is rounded.
  unfold ofUnits
  simp only [nearest]

/-- A whole number is counted in units as a whole number. -/
theorem Binary64.ofRatio_ofNat (negative : Bool) (n : Nat) :
    Binary64.ofRatio negative (Ratio.ofNat n) = ofUnits negative (Ratio.ofNat (n * twoPow 1074)) :=
  rfl

namespace Binary64.IsInteger

variable {x : Binary64} {n : Int}

/-- An integer is converted to the floating point number of its value. -/
theorem ofInt_eq (whole : x.IsInteger n) : Binary64.ofInt n = x := by
  obtain ⟨m, rfl, value⟩ := whole
  -- No rounding takes place, since the integer is a whole count of units of a magnitude.
  rw [Binary64.ofInt, ofRatio_ofNat, ← Magnitude.value_eq_iff.mp value,
    ofUnits_eq m.nearest?_units]

/-- The integer part of a whole number is the integer. -/
theorem truncate?_eq (whole : x.IsInteger n) : x.truncate? = some n := by
  obtain ⟨m, rfl, value⟩ := whole
  rw [truncate?, Magnitude.value_eq_iff.mp value, Nat.mul_div_cancel _ (twoPow_pos 1074),
    signedInt_natAbs]

/-- A whole number of up to 2 ^ 53 equals an integer exactly. -/
theorem exactInteger?_eq (whole : x.IsInteger n) (small : n.natAbs ≤ 2 ^ 53) :
    x.exactInteger? = some n := by
  -- A whole number is counted in units without a rest.
  obtain ⟨m, rfl, value⟩ := whole
  simp only [exactInteger?, Magnitude.value_eq_iff.mp value, Nat.mul_div_cancel _ (twoPow_pos 1074),
    Nat.mul_mod_left, signedInt_natAbs]
  exact if_pos ⟨trivial, small⟩

/-- A whole number is zero when the integer is. -/
theorem isZero_iff (whole : x.IsInteger n) : x.isZero ↔ n = 0 := by
  obtain ⟨m, rfl, value⟩ := whole
  rw [isZero, decide_eq_true_eq, Magnitude.significand_eq_zero_iff value, Int.natAbs_eq_zero]

/-- A whole number is at least zero when the integer is. -/
theorem nonnegative_iff (whole : x.IsInteger n) : x.nonnegative ↔ 0 ≤ n := by
  -- A zero of either sign is at least zero.
  obtain ⟨m, rfl, value⟩ := whole
  simp only [nonnegative, Magnitude.significand_eq_zero_iff value, Bool.or_eq_true,
    Bool.not_eq_true', decide_eq_false_iff_not, decide_eq_true_eq]
  omega

/-- A whole number of up to 2 ^ 53 has the text of the integer. -/
theorem text_eq (whole : x.IsInteger n) (small : n.natAbs ≤ 2 ^ 53) : x.text = n.repr.toList := by
  obtain ⟨m, rfl, value⟩ := whole
  rw [repr_toList, text]
  simp only [Magnitude.significand_eq_zero_iff value]
  -- Zero is written on its own, and a sign stands before all others alike.
  split
  · rename_i zero
    rw [Int.natAbs_eq_zero.mp zero]
    rfl
  · rename_i some
    rw [Magnitude.write_whole value (Nat.pos_of_ne_zero some) small]

end Binary64.IsInteger

/-- Two numbers that are the same, or an integer of up to 2 ^ 53 beside the floating point number
of its value. -/
inductive Number.Alike : Number → Number → Prop where
  | refl (number : Number) : Alike number number
  | whole {n : Int64} {x : Binary64} (value : x.IsInteger n.toInt)
      (small : n.toInt.natAbs ≤ 2 ^ 53) : Alike (.int n) (.float x)

namespace Number.Alike

variable {number other : Number}

/-- Numbers that are alike have the same sign. -/
theorem nonnegative_eq (alike : number.Alike other) : number.nonnegative = other.nonnegative := by
  -- Both compare with zero as the whole number does.
  cases alike with
  | refl => rfl
  | whole value => rw [Bool.eq_iff_iff, nonnegative, nonnegative, value.nonnegative_iff,
      decide_eq_true_eq]

/-- Numbers that are alike are converted to the same floating point number. -/
theorem toBinary64_eq (alike : number.Alike other) : number.toBinary64 = other.toBinary64 := by
  cases alike with
  | refl => rfl
  | whole value => exact value.ofInt_eq

/-- Numbers that are alike have the same integer part, which 64 bits hold. -/
theorem truncate?_eq (alike : number.Alike other) : number.truncate? = other.truncate? := by
  cases alike with
  | refl => rfl
  | @whole n x value =>
    -- The bounds that cut a floating point number do not reach an integer of 64 bits.
    have lower := n.minValue_le_toInt
    have upper := n.toInt_le
    rw [truncate?, truncate?, value.truncate?_eq, Option.map_some, if_neg (not_lt.mpr lower),
      if_neg (not_lt.mpr upper)]

/-- Numbers that are alike have the same text. -/
theorem text_eq (alike : number.Alike other) : number.text = other.text := by
  cases alike with
  | refl => rfl
  | whole value small => exact (value.text_eq small).symm

end Number.Alike

end TextTemplate
