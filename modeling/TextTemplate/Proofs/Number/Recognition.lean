import TextTemplate.Proofs.Number.Range
import TextTemplate.Proofs.Number.Sign
import TextTemplate.Proofs.Number.Spelling

/-! A text is a number where it spells a decimal number within the range or infinity, and its sign
is that of the text unless the number is zero. -/

namespace TextTemplate

variable {cs : List Char} {negative : Bool} {literal : Literal} {number : Number}

/-- A text is a number to every conversion: a decimal number within the range, or infinity. -/
def IsNumeric (cs : List Char) : Prop :=
  (∃ literal, SpellsDecimal cs literal ∧ literal.magnitude < Binary64.overflow) ∨
    ∃ negative, SpellsInfinity cs negative

/-- The name of infinity does not begin with a sign. -/
theorem infinity_unsigned : ∀ c ∈ ("Infinity".toList).head?, c ≠ '-' ∧ c ≠ '+' := by
  intro c first
  obtain rfl : 'I' = c := Option.some.inj first
  exact ⟨by decide, by decide⟩

/-- A text is read as infinity just where it spells it. -/
theorem readInfinity?_eq_some_iff {x : Binary64} :
    readInfinity? cs = some x ↔
      ∃ negative, SpellsInfinity cs negative ∧ x = .infinite negative := by
  constructor
  -- Behind the sign the whole name has to stand.
  · intro read
    simp only [readInfinity?, Option.ite_none_right_eq_some, Option.some.injEq] at read
    obtain ⟨name, rfl⟩ := read
    obtain ⟨sign, signed, split⟩ := exists_sign cs
    have spelled := SpellsInfinity.infinity signed
    rw [← name, ← split] at spelled
    exact ⟨_, spelled, rfl⟩
  · rintro ⟨_, ⟨signed⟩, rfl⟩
    rw [readInfinity?, signed.read infinity_unsigned]
    rfl

/-- Infinity is no decimal number. -/
theorem SpellsInfinity.not_decimal (spelled : SpellsInfinity cs negative) :
    ¬ SpellsDecimal cs literal := by
  intro decimal
  obtain ⟨signed⟩ := spelled
  generalize written : _ ++ "Infinity".toList = cs at decimal
  obtain ⟨also, digits, -⟩ := decimal
  have read := signed.read infinity_unsigned
  rw [written, also.read digits.unsigned, Prod.mk.injEq] at read
  -- Behind the sign stands a letter, and no digit and no point.
  obtain ⟨c, rest, rfl, begins⟩ := digits.head
  obtain ⟨rfl, -⟩ := List.cons.inj read.2
  revert begins
  decide

/-- Digits with a sign are a decimal number without a power of ten. -/
theorem Json.SpellsInteger.decimal {n : Int} (spelled : Json.SpellsInteger cs n) :
    ∃ negative digits, SpellsDecimal cs ⟨negative, digits, 0⟩ ∧ n = signedInt negative digits := by
  -- An integer is a mantissa without a point, and no power follows it.
  have number {sign digits : List Char} {negative : Bool} (signed : SpellsSign sign negative)
      (each : Json.IsDigits digits) :
      SpellsDecimal (sign ++ digits) ⟨negative, Nat.ofDigitChars 10 digits 0, 0⟩ := by
    have spelled := SpellsDecimal.decimal signed (.whole each) .missing
    rwa [List.append_nil] at spelled
  cases spelled with
  | unsigned digits => exact ⟨false, _, number .missing digits, rfl⟩
  | plus digits => exact ⟨false, _, number .plus digits, rfl⟩
  | minus digits => exact ⟨true, _, number .minus digits, rfl⟩

/-- The absolute value of an integer with a sign. -/
theorem natAbs_signedInt (negative : Bool) (n : Nat) : (signedInt negative n).natAbs = n := by
  cases negative with
  | false => exact Int.natAbs_natCast n
  | true => exact Int.natAbs_neg n

/-- A number without a power of ten stands for its digits. -/
theorem Literal.magnitude_whole (negative : Bool) (digits : Nat) :
    (Literal.mk negative digits 0).magnitude = digits := by
  rw [Literal.magnitude, zpow_zero, mul_one]

/-- A text is read as a number just where it spells one. -/
theorem ofText?_isSome_iff : (Number.ofText? cs).isSome ↔ IsNumeric cs := by
  unfold Number.ofText?
  split
  · rename_i n integer
    obtain ⟨read, fits⟩ := Option.filter_eq_some_iff.mp integer
    obtain ⟨negative, digits, spelled, rfl⟩ := (readInteger?_eq_some_iff.mp read).decimal
    refine iff_of_true rfl (.inl ⟨_, spelled, ?_⟩)
    -- No integer of 64 bits comes near the end of the range.
    have absolute := natAbs_signedInt negative digits
    rw [fitsInt64_iff] at fits
    have small : (digits : ℚ) ≤ 2 ^ 63 := by exact_mod_cast show digits ≤ 2 ^ 63 by omega
    rw [Literal.magnitude_whole]
    exact small.trans_lt (pow_lt_overflow (by decide))
  split
  -- The number that is read is the only one that the text spells, and infinity is spelled
  -- otherwise.
  · rename_i literal read
    have spelled := read?_eq_some_iff.mp read
    have only : IsNumeric cs ↔ literal.magnitude < Binary64.overflow := by
      constructor
      · rintro (⟨other, also, within⟩ | ⟨negative, infinity⟩)
        · obtain rfl := Option.some.inj (read.symm.trans (read?_eq_some_iff.mpr also))
          exact within
        · exact absurd spelled infinity.not_decimal
      · exact fun within => .inl ⟨literal, spelled, within⟩
    rw [only, ← literal.isFinite_toBinary64_iff]
    split
    · rename_i finite
      exact iff_of_true rfl finite
    · rename_i infinite
      exact iff_of_false nofun infinite
  -- What spells no decimal number can only be infinity.
  · rename_i unread
    have none : ∀ literal, ¬ SpellsDecimal cs literal := by
      intro literal spelled
      rw [read?_eq_some_iff.mpr spelled] at unread
      cases unread
    rw [Option.isSome_map, Option.isSome_iff_exists]
    simp only [readInfinity?_eq_some_iff]
    constructor
    · rintro ⟨_, negative, infinity, -⟩
      exact .inr ⟨negative, infinity⟩
    · rintro (⟨literal, spelled, -⟩ | ⟨negative, infinity⟩)
      · exact absurd spelled (none literal)
      · exact ⟨_, negative, infinity, rfl⟩

/-- A text that spells a decimal number is read as a number that is rounded to the nearest one of
double precision. -/
theorem ofText?_toBinary64 {m : Magnitude} (spelled : SpellsDecimal cs literal)
    (positive : 0 < m.significand) (nearest : literal.toBinary64 = .finite negative m) :
    ∃ number, Number.ofText? cs = some number ∧ number.toBinary64 = .finite negative m := by
  obtain ⟨sign, holds⟩ := (Literal.toBinary64_eq_iff positive).mp nearest
  unfold Number.ofText?
  split
  · -- An integer of 64 bits is kept, and rounded when it is used.
    rename_i n integer
    obtain ⟨read, fits⟩ := Option.filter_eq_some_iff.mp integer
    obtain ⟨minus, digits, whole, rfl⟩ := (readInteger?_eq_some_iff.mp read).decimal
    obtain rfl : literal = ⟨minus, digits, 0⟩ := Option.some.inj
      ((read?_eq_some_iff.mpr spelled).symm.trans (read?_eq_some_iff.mpr whole))
    obtain rfl : minus = negative := sign
    have some : 0 < digits := (Literal.digitCount_bounds_of_holds positive holds).1
    refine ⟨_, rfl, ?_⟩
    rw [Number.toBinary64, toInt_ofInt_of_fitsInt64 fits, Binary64.ofInt, Binary64.ofRatio_eq_iff,
      value_ofNat, natAbs_signedInt, ← Literal.magnitude_whole minus]
    refine ⟨?_, holds⟩
    cases minus with
    | false => exact decide_eq_false (not_lt.mpr (Int.natCast_nonneg digits))
    | true => exact decide_eq_true (Int.neg_neg_of_pos (Int.natCast_pos.mpr some))
  · rw [read?_eq_some_iff.mpr spelled]
    simp only [nearest, Binary64.isFinite, if_true]
    exact ⟨_, rfl, rfl⟩

/-- A literal is rounded to a number of its sign. -/
theorem Literal.toBinary64_cases (literal : Literal) :
    literal.toBinary64 = .infinite literal.negative ∨
      ∃ m, literal.toBinary64 = .finite literal.negative m := by
  -- However a number is rounded, its sign is put on at the end.
  rw [toBinary64, Binary64.ofDecimal]
  split
  · exact .inr ⟨_, rfl⟩
  split
  · exact .inl rfl
  split
  · exact .inr ⟨_, rfl⟩
  · exact Binary64.ofUnits_cases _ _

/-- An integer with a sign is below zero where the sign is a minus and the integer is not zero. -/
theorem signedInt_neg_iff (negative : Bool) (n : Nat) :
    signedInt negative n < 0 ↔ negative ∧ signedInt negative n ≠ 0 := by
  -- Zero is the same with either sign.
  cases negative with
  | false => simp [signedInt]
  | true =>
    simp only [signedInt, if_true, true_and]
    omega

/-- A text is read as a number below zero where it begins with a minus and its number is not
zero. -/
theorem isNegative_of_ofText? (read : Number.ofText? cs = some number) :
    number.IsNegative ↔ (readSign cs).1 ∧ number.value? ≠ some 0 := by
  -- An integer, a decimal number and infinity are read each in its own way.
  unfold Number.ofText? at read
  split at read
  · rename_i n integer
    obtain rfl := Option.some.inj read
    obtain ⟨read, fits⟩ := Option.filter_eq_some_iff.mp integer
    simp only [readInteger?, Option.ite_none_right_eq_some, Option.some.injEq] at read
    have value : (Number.int (.ofInt n)).value? ≠ some 0 ↔ n ≠ 0 := by
      simp [Number.value?, toInt_ofInt_of_fitsInt64 fits]
    rw [Number.isNegative_iff_value rfl, toInt_ofInt_of_fitsInt64 fits, Int.cast_lt_zero, value,
      ← read.2]
    exact signedInt_neg_iff _ _
  split at read
  · rename_i literal spelled
    obtain ⟨-, same⟩ := Option.ite_none_right_eq_some.mp read
    obtain rfl := Option.some.inj same
    have sign : literal.negative = (readSign cs).1 := by
      obtain ⟨signed, digits, power⟩ := read?_eq_some_iff.mp spelled
      rw [signed.read digits.unsigned]
    rw [← sign]
    rcases literal.toBinary64_cases with infinite | ⟨m, finite⟩
    · rw [infinite, Number.isNegative_infinite_iff]
      exact (and_iff_left (Option.some_ne_none 0).symm).symm
    · rw [finite]
      exact Number.isNegative_finite_iff _ m
  · obtain ⟨x, infinite, rfl⟩ := Option.map_eq_some_iff.mp read
    obtain ⟨negative, ⟨signed⟩, rfl⟩ := readInfinity?_eq_some_iff.mp infinite
    rw [signed.read infinity_unsigned, Number.isNegative_infinite_iff]
    exact (and_iff_left (Option.some_ne_none 0).symm).symm

end TextTemplate
