import TextTemplate.Number.Padded
import TextTemplate.Proofs.Json.Grammar
import TextTemplate.Proofs.Number.Digits
import TextTemplate.Proofs.Number.Rounding

/-! Digits are written in place around a point, with one of them before it and a power of ten, or
with a count of them behind it, and spell the number that they stand for. -/

namespace TextTemplate

namespace Json

/-- The digits of a number are digits. -/
theorem isDigits_toDigits (n : Nat) : IsDigits (Nat.toDigits 10 n) :=
  ⟨Nat.toDigits_ne_nil, fun _ => Nat.isDigit_of_mem_toDigits (by decide) (by decide)⟩

/-- Zeros are digits. -/
theorem isDigit_of_mem_replicate {zeros : Nat} : ∀ c ∈ List.replicate zeros '0', c.isDigit := by
  -- Only the zero itself stands in the row.
  intro c member
  rw [List.eq_of_mem_replicate member]
  decide

/-- A power of ten is written out with its sign. -/
theorem spellsInteger_signedInteger (n : Int) : SpellsInteger (Scientific.signedInteger n) n := by
  -- The sign decides which of the two spellings applies, and the digits read back the absolute
  -- value.
  have digits := isDigits_toDigits n.natAbs
  unfold Scientific.signedInteger
  split
  · have spelled := SpellsInteger.minus digits
    rwa [Nat.ofDigitChars_ten_toDigits, show -(n.natAbs : Int) = n by omega] at spelled
  · have spelled := SpellsInteger.plus digits
    rwa [Nat.ofDigitChars_ten_toDigits, show (n.natAbs : Int) = n by omega] at spelled

/-- A number has digits before its point. -/
theorem SpellsNumeral.whole {cs : List Char} {n : Numeral} (spelled : SpellsNumeral cs n) :
    IsDigits n.whole := by
  -- There is one way to spell a number, and digits before the point are part of it.
  cases spelled
  assumption

namespace Numeral

/-- The characters of a number, with a small e and a sign in front of its power of ten. -/
def written (n : Numeral) : List Char :=
  minusSign n.negative ++ (n.whole ++ (fraction n.decimals ++
    match n.exponent with
    | some power => 'e' :: Scientific.signedInteger power
    | none => []))

/-- A number has digits around its point, of which none but a single one is a leading zero. -/
structure IsProper (n : Numeral) : Prop where
  whole : IsDigits n.whole
  leading : n.whole.head? = some '0' → n.whole = ['0']
  decimals : ∀ c ∈ n.decimals, c.isDigit

/-- A number is spelled by its characters. -/
theorem IsProper.spells {n : Numeral} (proper : n.IsProper) : SpellsNumeral n.written n := by
  -- The digits are given as proper, so only the power of ten is left to be spelled.
  refine .numeral proper.whole proper.leading proper.decimals ?_
  cases n.exponent with
  | none => exact .missing
  | some power => exact .power (.inl rfl) (spellsInteger_signedInteger power)

/-- A number of which some digits stand before the point and the others behind it. -/
def around (negative : Bool) (digits : List Char) (whole : Nat) (exponent : Option Int) : Numeral :=
  ⟨negative, digits.take whole, digits.drop whole, exponent⟩

variable {digits : List Char} {whole : Nat}

/-- Digits make up a number around any point, where no more than one stands before the point if it
is a zero. -/
theorem isProper_around (each : IsDigits digits) (positive : 0 < whole)
    (leading : digits.head? = some '0' → whole = 1) (negative : Bool)
    (exponent : Option Int) : (around negative digits whole exponent).IsProper := by
  obtain ⟨first, rest, rfl⟩ := List.exists_cons_of_ne_nil each.nonempty
  obtain ⟨more, rfl⟩ := Nat.exists_eq_succ_of_ne_zero positive.ne'
  -- At least one digit stands before the point, so the first one does.
  refine ⟨⟨List.cons_ne_nil _ _, ?_⟩, ?_, ?_⟩
  · intro c member
    exact each.digits c (List.mem_of_mem_take member)
  · -- Some of the first digits begin as all of them.
    intro zero
    obtain rfl : first = '0' := Option.some.inj zero
    obtain rfl : more = 0 := Nat.succ.inj (leading rfl)
    rfl
  · intro c member
    exact each.digits c (List.mem_of_mem_drop member)

/-- Digits around a point stand for a whole number of the last of them. -/
theorem literal_around (negative : Bool) (exponent : Option Int) :
    (around negative digits whole exponent).literal =
      ⟨negative, Nat.ofDigitChars 10 digits 0,
        exponent.getD 0 - (digits.length - whole : Nat)⟩ := by
  -- Put together again, both sides of the point are the digits, and the power moves by those behind
  -- it.
  simp only [literal, around, List.take_append_drop, List.length_drop]

/-- One zero behind the point of a whole number adds nothing to it. -/
theorem magnitude_zero {n : Numeral} (whole : n.decimals = []) (place : n.exponent = none) :
    (Numeral.literal { n with decimals := ['0'] }).magnitude = n.literal.magnitude := by
  -- The digits become ten times the number, which counts tenths now.
  have digit : ∀ high, Nat.ofDigitChars 10 ['0'] high = 10 * high := fun high => rfl
  simp only [literal, Literal.magnitude, whole, place, Nat.ofDigitChars_append, digit,
    List.append_nil]
  norm_num
  ring

end Numeral

end Json

namespace Scientific

open Json (Numeral fraction)

variable {s : Scientific} {n : Nat}

/-- A number in place, with zeros between its digits and the point on either side. -/
def inPlace (negative : Bool) (s : Scientific) : Numeral :=
  match s.exponent with
  | .ofNat power =>
    .around negative (s.digits ++ List.replicate (power + 1 - s.digits.length) '0') (power + 1) none
  | .negSucc zeros => .around negative (List.replicate (zeros + 1) '0' ++ s.digits) 1 none

/-- A number with one digit before its point and a power of ten. -/
def powered (negative : Bool) (s : Scientific) : Numeral :=
  .around negative s.digits 1 (some s.exponent)

/-- A number in place is written with its digits in their places. -/
theorem written_inPlace (nonempty : s.digits ≠ []) (negative : Bool) :
    (s.inPlace negative).written = minusSign negative ++ s.plain := by
  unfold inPlace plain
  cases s.exponent with
  | ofNat power =>
    simp only [Numeral.written, Numeral.around, List.append_nil, List.append_cancel_left_eq]
    split
    · -- The zeros reach up to the point, and nothing stands behind it.
      rename_i fits
      have length : (s.digits ++
          List.replicate (power + 1 - s.digits.length) '0').length = power + 1 := by
        rw [List.length_append, List.length_replicate]
        omega
      rw [List.take_of_length_le length.le, List.drop_of_length_le length.le, fraction, if_pos rfl,
        List.append_nil]
    -- Digits reach behind the point, so no zeros are needed in front of it.
    · rename_i wide
      have none : power + 1 - s.digits.length = 0 := by omega
      have behind : s.digits.drop (power + 1) ≠ [] := by simpa using wide
      rw [none, List.replicate_zero, List.append_nil, fraction, if_neg behind]
  | negSucc zeros =>
    -- A zero of its own stands before the point.
    have behind : List.replicate zeros '0' ++ s.digits ≠ [] :=
      List.append_ne_nil_of_right_ne_nil _ nonempty
    simp [Numeral.written, Numeral.around, List.replicate_succ, fraction, behind]

/-- A number with a power of ten is written as a mantissa and that power. -/
theorem written_powered (nonempty : s.digits ≠ []) (negative : Bool) :
    (s.powered negative).written = minusSign negative ++ s.exponential := by
  obtain ⟨first, rest, split⟩ := List.exists_cons_of_ne_nil nonempty
  unfold powered exponential
  rw [split]
  -- The point is left out where no digit stands behind it.
  cases rest with
  | nil => simp [Numeral.written, Numeral.around, fraction]
  | cons second rest => simp [Numeral.written, Numeral.around, fraction]

/-- The digits of a positive number make up one in place, whatever its power of ten. -/
theorem isProper_inPlace (positive : 0 < n) (power : Int) (negative : Bool) :
    (inPlace negative ⟨Nat.toDigits 10 n, power⟩).IsProper := by
  -- Zeros are digits too, wherever they are filled in.
  have each := Json.isDigits_toDigits n
  cases power with
  | ofNat power =>
    refine Numeral.isProper_around ⟨?_, ?_⟩ (Nat.succ_pos power) ?_ negative none
    · exact List.append_ne_nil_of_left_ne_nil each.nonempty _
    · exact List.forall_mem_append.mpr ⟨each.digits, Json.isDigit_of_mem_replicate⟩
    · -- The first digit of a positive number is no zero.
      intro zero
      rw [List.head?_append_of_ne_nil _ each.nonempty] at zero
      exact absurd zero (head?_toDigits positive)
  -- A single zero stands before the point of a number below one.
  | negSucc zeros =>
    refine Numeral.isProper_around ⟨?_, ?_⟩ Nat.one_pos (fun _ => rfl) negative none
    · exact List.append_ne_nil_of_right_ne_nil _ each.nonempty
    · exact List.forall_mem_append.mpr ⟨Json.isDigit_of_mem_replicate, each.digits⟩

/-- The digits of a number make up one with a power of ten. -/
theorem isProper_powered (n : Nat) (power : Int) (negative : Bool) :
    (powered negative ⟨Nat.toDigits 10 n, power⟩).IsProper :=
  Numeral.isProper_around (Json.isDigits_toDigits n) Nat.one_pos (fun _ => rfl) negative _

/-- A number in place stands for its digits at their power of ten. -/
theorem magnitude_inPlace (n : Nat) (power : Int) (negative : Bool) :
    (inPlace negative ⟨Nat.toDigits 10 n, power⟩).literal.magnitude =
      n * 10 ^ (power + 1 - digitCount n) := by
  cases power with
  | ofNat power =>
    simp only [inPlace, Numeral.literal_around, Literal.magnitude, Nat.ofDigitChars_append,
      Nat.ofDigitChars_ten_toDigits, Nat.ofDigitChars_replicate_zero, List.length_append,
      List.length_replicate, Option.getD_none, digitCount]
    -- Each zero that is filled in takes the place of one decimal that is missing.
    rw [Nat.cast_mul, Nat.cast_pow, Nat.cast_ofNat, mul_comm (10 ^ _ : ℚ), mul_assoc,
      ← zpow_natCast, ← zpow_add₀ (by norm_num)]
    congr 2
    rw [Int.ofNat_eq_natCast]
    omega
  | negSucc zeros =>
    -- Zeros in front add nothing to the digits.
    have nothing : Nat.ofDigitChars 10 (List.replicate (zeros + 1) '0') 0 = 0 := by
      rw [Nat.ofDigitChars_replicate_zero, Nat.mul_zero]
    simp only [inPlace, Numeral.literal_around, Literal.magnitude, Nat.ofDigitChars_append, nothing,
      Nat.ofDigitChars_ten_toDigits, List.length_append, List.length_replicate, Option.getD_none,
      digitCount]
    congr 2
    omega

/-- A number with a power of ten stands for its digits at that power. -/
theorem magnitude_powered (n : Nat) (power : Int) (negative : Bool) :
    (powered negative ⟨Nat.toDigits 10 n, power⟩).literal.magnitude =
      n * 10 ^ (power + 1 - digitCount n) := by
  -- All digits but the first stand behind the point, so the power counts down from the first.
  have some : 0 < (Nat.toDigits 10 n).length := Nat.length_toDigits_pos
  simp only [powered, Numeral.literal_around, Literal.magnitude, Nat.ofDigitChars_ten_toDigits,
    Option.getD_some, digitCount]
  congr 2
  omega

/-- One digit stands before the point of a number with a power of ten. -/
theorem length_whole_powered (nonempty : s.digits ≠ []) (negative : Bool) :
    (s.powered negative).whole.length = 1 := by
  -- There is a digit, and the point stands right behind the first.
  have some := List.length_pos_of_ne_nil nonempty
  simp only [powered, Numeral.around, List.length_take]
  omega

/-- A number in place has no power of ten. -/
theorem exponent_inPlace (negative : Bool) (s : Scientific) :
    (s.inPlace negative).exponent = none := by
  -- The zeros that are filled in take the place of the power.
  unfold inPlace
  cases s.exponent with
  | ofNat power => rfl
  | negSucc zeros => rfl

/-- A number in place has the sign that it is written with. -/
theorem negative_inPlace (negative : Bool) (s : Scientific) :
    (s.inPlace negative).negative = negative := by
  -- The zeros do not touch the sign, on whichever side of the point they stand.
  unfold inPlace
  cases s.exponent with
  | ofNat power => rfl
  | negSucc zeros => rfl

/-- Nothing stands behind the point of a whole number in place. -/
theorem decimals_inPlace_eq_nil_iff (nonempty : s.digits ≠ []) (negative : Bool) :
    (s.inPlace negative).decimals = [] ↔ s.isWhole := by
  -- The digits and the zeros filled in reach just to the point where the digits fit in front of it.
  have length := List.length_pos_of_ne_nil nonempty
  unfold inPlace isWhole Numeral.around
  rw [decide_eq_true_iff]
  cases s.exponent with
  | ofNat power =>
    simp only [List.drop_eq_nil_iff, List.length_append, List.length_replicate,
      Int.ofNat_eq_natCast]
    omega
  -- Below one, every digit stands behind the point.
  | negSucc zeros =>
    simp only [List.drop_eq_nil_iff, List.length_append, List.length_replicate]
    omega

/-- A number in place ends behind its point in no zero where its digits do not. -/
theorem getLast?_inPlace (nonempty : s.digits ≠ []) (ends : s.digits.getLast? ≠ some '0')
    (negative : Bool) : (s.inPlace negative).decimals.getLast? ≠ some '0' := by
  unfold inPlace Numeral.around
  cases s.exponent with
  | ofNat power =>
    simp only
    rw [List.getLast?_drop]
    split
    · exact nofun
    · -- Where digits reach behind the point, no zeros are filled in.
      rename_i wide
      rw [List.length_append, List.length_replicate] at wide
      have none : power + 1 - s.digits.length = 0 := by omega
      rwa [none, List.replicate_zero, List.append_nil]
  -- The last of the digits is the last of all, because zeros only stand in front of them.
  | negSucc zeros =>
    simp only [List.replicate_succ, List.cons_append, List.drop_succ_cons, List.drop_zero]
    rwa [List.getLast?_append_of_ne_nil _ nonempty]

end Scientific

section Decimals

open Json (Numeral)

variable {count : Nat}

/-- The length of a number that is filled up with zeros. -/
theorem length_paddedNat (count n : Nat) :
    (paddedNat count n).length = max count (digitCount n) := by
  -- The zeros make up for the digits that are missing, and none is missing beyond the count.
  rw [paddedNat, List.length_append, List.length_replicate, digitCount]
  omega

/-- A number that is filled up with zeros has digits only. -/
theorem isDigits_paddedNat (count n : Nat) : Json.IsDigits (paddedNat count n) := by
  -- The zeros are digits like those behind them, of which there is one at least.
  have each := Json.isDigits_toDigits n
  constructor
  · exact List.append_ne_nil_of_right_ne_nil _ each.nonempty
  · exact List.forall_mem_append.mpr ⟨Json.isDigit_of_mem_replicate, each.digits⟩

/-- A number begins with a zero only where it is filled up, or where it is zero itself. -/
theorem length_of_leading_zero (room : 0 < count) (zero : (paddedNat count n).head? = some '0') :
    (paddedNat count n).length = count := by
  rw [length_paddedNat]
  -- With a zero filled in, the length is the count. Without one, the zero is a digit of the number.
  by_cases filled : digitCount n < count
  · omega
  · have none : count - (Nat.toDigits 10 n).length = 0 := Nat.sub_eq_zero_of_le (not_lt.mp filled)
    rw [paddedNat, none, List.replicate_zero, List.nil_append] at zero
    rcases Nat.eq_zero_or_pos n with rfl | positive
    · exact max_eq_left room
    · exact absurd zero (head?_toDigits positive)

/-- The zeros that a number is filled up with do not count. -/
theorem ofDigitChars_paddedNat (count n : Nat) : Nat.ofDigitChars 10 (paddedNat count n) 0 = n := by
  -- The value of the zeros is zero, and it is carried on as nothing.
  rw [paddedNat, Nat.ofDigitChars_append, Nat.ofDigitChars_replicate_zero, Nat.mul_zero,
    Nat.ofDigitChars_ten_toDigits]

/-- A whole number of the last of a count of decimals, which has a digit before its point. -/
def Json.Numeral.decimal (n decimals : Nat) : Numeral :=
  let digits := paddedNat (decimals + 1) n
  .around false digits (digits.length - decimals) none

/-- A fraction with a count of decimals is written as the number of them that it is rounded to. -/
theorem written_decimal (r : Ratio) (decimals : Nat) :
    (Numeral.decimal (r.scaled decimals).round decimals).written = r.fixed decimals := by
  -- Both cut the same digits at the same place, so the digits are generalized once they are shared.
  have length := length_paddedNat (decimals + 1) (r.scaled decimals).round
  have text : r.fixed decimals =
      let digits := paddedNat (decimals + 1) (r.scaled decimals).round
      if decimals = 0 then digits else
        digits.take (digits.length - decimals) ++ '.' :: digits.drop (digits.length - decimals) :=
    rfl
  rw [text, Numeral.decimal]
  generalize paddedNat (decimals + 1) (r.scaled decimals).round = digits at *
  simp only [Numeral.written, Numeral.around, minusSign, Bool.false_eq_true, if_false,
    List.nil_append, List.append_nil, Json.fraction, List.drop_eq_nil_iff]
  split
  · -- Without decimals the point is left out.
    rename_i none
    rw [if_pos (by omega), List.append_nil, List.take_of_length_le (by omega)]
  · rename_i pointed
    rw [if_neg (by omega)]

/-- A number with a count of decimals has that many digits behind its point. -/
theorem length_decimals_decimal (n decimals : Nat) :
    (Numeral.decimal n decimals).decimals.length = decimals := by
  -- The count of digits is more than the decimals, so that all of these are behind the point.
  have length := length_paddedNat (decimals + 1) n
  simp only [Numeral.decimal, Numeral.around, List.length_drop]
  omega

/-- A number with a count of decimals is made up of its digits. -/
theorem isProper_decimal (n decimals : Nat) : (Numeral.decimal n decimals).IsProper := by
  -- A zero in front is only ever filled in as the one digit before the point.
  have length := length_paddedNat (decimals + 1) n
  refine Numeral.isProper_around (isDigits_paddedNat _ n) (by omega) ?_ false none
  intro zero
  have single : (paddedNat (decimals + 1) n).length = decimals + 1 :=
    length_of_leading_zero decimals.succ_pos zero
  omega

/-- A number with a count of decimals stands for its digits at the last of them. -/
theorem literal_decimal (n decimals : Nat) :
    (Numeral.decimal n decimals).literal = ⟨false, n, -decimals⟩ := by
  -- The zeros in front do not count, and the decimals are those behind the point.
  have length := length_paddedNat (decimals + 1) n
  simp only [Numeral.decimal, Numeral.literal_around, ofDigitChars_paddedNat, Option.getD_none]
  congr 1
  omega

end Decimals

end TextTemplate
