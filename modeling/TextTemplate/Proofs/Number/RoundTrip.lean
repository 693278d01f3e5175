import TextTemplate.Proofs.Number.Fixed
import TextTemplate.Proofs.Number.Notation
import TextTemplate.Proofs.Number.Recognition

/-! The shortest text of a number is read back as the same number. It has all digits in their places
from a millionth on and below twenty-two digits, and a power of ten elsewhere. -/

namespace TextTemplate

open Json (Numeral SpellsNumeral)

namespace Magnitude

variable {m other bound : Magnitude} {tie : Tie} {q p : ℚ} {power : Int}

/-- A number that is not negative is held by one magnitude. -/
theorem Holds.unique (least : 0 ≤ q) (holds : m.Holds q) (also : other.Holds q) : m = other := by
  -- A fraction of that value is rounded to both.
  obtain ⟨r, rfl⟩ : ∃ r : Ratio, r.value = q := by
    refine ⟨⟨q.num.toNat, q.den, q.den_pos⟩, ?_⟩
    have num : ((q.num.toNat : Int) : ℚ) = q.num :=
      congrArg Int.cast (Int.toNat_of_nonneg (Rat.num_nonneg.mpr least))
    rw [Ratio.value, ← Int.cast_natCast, num, Rat.num_div_den]
  have first : Binary64.ofRatio false r = .finite false m :=
    Binary64.ofRatio_eq_iff.mpr ⟨rfl, holds⟩
  have second : Binary64.ofRatio false r = .finite false other :=
    Binary64.ofRatio_eq_iff.mpr ⟨rfl, also⟩
  injection first.symm.trans second

/-- Rounding keeps numbers in order. -/
theorem Holds.value_le (holds : m.Holds q) (also : other.Holds p) (least : 0 ≤ q) (le : q ≤ p) :
    m.ratio.value ≤ other.ratio.value := by
  by_contra! less
  -- If the order were reversed, one of the numbers would be held by both.
  have same : m = other := by
    by_cases below : q ≤ other.ratio.value
    · -- Between what it holds and itself, a magnitude holds no other.
      exact holds_value_iff.mp (holds.up below less.le)
    · exact holds.unique least (also.down le (not_le.mp below).le)
  exact absurd less (same ▸ lt_irrefl _)

/-- Magnitudes of one value are the same. -/
theorem eq_of_value_eq (same : m.ratio.value = other.ratio.value) : m = other := by
  rw [← holds_value_iff, ← same]
  exact between_of_lt m.inside.1 m.inside.2

/-- The first of the shortest digits stands for the greatest power of ten in the number that they
make up. -/
theorem le_exponent_ofScaled_iff {literal : Literal} (some : 0 < literal.digits) :
    power ≤ (Scientific.ofScaled literal.digits (-literal.exponent)).exponent ↔
      10 ^ power ≤ literal.magnitude := by
  obtain ⟨lower, upper⟩ := literal.magnitude_bounds some
  simp only [Scientific.ofScaled, sub_neg_eq_add]
  -- The number lies between the power of its first digit and the next.
  constructor
  · intro le
    exact (zpow_le_zpow_right₀ (by norm_num) (by omega)).trans lower
  · intro le
    have less := (zpow_lt_zpow_iff_right₀ (by norm_num)).mp (le.trans_lt upper)
    omega

/-- The shortest digits reach a power of ten where the magnitude reaches the one nearest to the
power, if that is written as the power itself. -/
theorem le_exponent_shortest_iff (positive : 0 < m.significand) (nearest : bound.Holds (10 ^ power))
    (shown : (bound.shortest tie).exponent = power) :
    power ≤ (m.shortest tie).exponent ↔ bound.ratio.value ≤ m.ratio.value := by
  obtain ⟨literal, -, some, shortest, read⟩ := m.exists_isShortest positive tie false
  have holds := ((Literal.toBinary64_eq_iff positive).mp read.reads).2
  have least : (0 : ℚ) < 10 ^ power := zpow_pos (by norm_num) power
  constructor
  -- The number that is written reaches the power, and rounding keeps the order.
  · intro reached
    rw [shortest, le_exponent_ofScaled_iff some] at reached
    exact nearest.value_le holds least.le reached
  · intro reached
    by_contra! below
    -- Rounding keeps the order, so that the two magnitudes are one.
    have less := (le_exponent_ofScaled_iff some).not.mp (shortest ▸ not_le.mpr below)
    have le := holds.value_le nearest (Literal.magnitude_pos_iff.mpr some).le (not_le.mp less).le
    obtain rfl := eq_of_value_eq (le_antisymm le reached)
    exact absurd shown below.ne

/-- The magnitude nearest to a millionth. -/
def millionth : Magnitude :=
  ⟨0x10C6F7A0B5ED8D, 1002, by decide, by decide, .inr (by decide)⟩

/-- The magnitude of the power of ten with twenty-one zeros. -/
def sextillion : Magnitude :=
  ⟨7629394531250000, 1091, by decide, by decide, .inr (by decide)⟩

/-- A millionth is rounded to the magnitude nearest to it. -/
theorem toBinary64_millionth : (Literal.mk false 1 (-6)).toBinary64 = .finite false millionth := by
  decide +kernel

/-- Twenty-one zeros need no rounding. -/
theorem value_sextillion : sextillion.ratio.value = 10 ^ 21 := by
  -- Its last seventeen bits are zeros behind the units of one.
  have whole := @value_of_shift sextillion 17 rfl
  rw [whole]
  norm_num [sextillion]

/-- A millionth is held by the magnitude nearest to it. -/
theorem holds_millionth : millionth.Holds (10 ^ (-6 : Int)) := by
  obtain ⟨-, holds⟩ := (Literal.toBinary64_eq_iff (by decide)).mp toBinary64_millionth
  rwa [Literal.magnitude, Nat.cast_one, one_mul] at holds

/-- Twenty-one zeros are held by the magnitude of their power of ten. -/
theorem holds_sextillion : sextillion.Holds (10 ^ (21 : Int)) := by
  have value : (10 : ℚ) ^ (21 : Int) = sextillion.ratio.value := value_sextillion.symm
  rw [value, holds_value_iff]

/-- The shortest digits end in no zero. -/
theorem getLast?_shortest (positive : 0 < m.significand) (tie : Tie) :
    (m.shortest tie).digits.getLast? ≠ some '0' := by
  obtain ⟨count, -, candidate, -⟩ := shortest_found positive tie
  obtain ⟨n, trimmed, -⟩ := candidate?_spec positive candidate
  rw [← trimmed, Scientific.trimmed, List.getLast?_reverse]
  -- The zeros at the end are dropped up to the first digit that is none.
  intro zero
  have kept := List.head?_dropWhile_not (fun c => decide (c = '0'))
    (Scientific.ofScaled n (m.places count)).digits.reverse
  rw [zero] at kept
  exact absurd kept (by decide)

end Magnitude

/-- Whether a number is written in place: from the one nearest to a millionth up to twenty-one
digits before the point. -/
def IsPlain (q : ℚ) : Prop :=
  (∃ least, (Literal.mk false 1 (-6)).toBinary64 = .finite false least ∧ least.ratio.value ≤ q) ∧
    q < 10 ^ 21

/-- A number that is not zero is spelled in place, with neither a point nor zeros that it does not
need, or with one digit before the point and a power of ten. -/
structure ShowsNumber (q : ℚ) (n : Numeral) : Prop where
  spelled : SpellsNumeral n.written n
  sign : n.negative = decide (q < 0)
  plain : IsPlain |q| → n.exponent = none ∧ n.decimals.getLast? ≠ some '0'
  powered : ¬ IsPlain |q| → n.exponent ≠ none ∧ n.whole.length = 1

variable {m : Magnitude} {x : Binary64}

/-- A magnitude is written in place where its digits and the zeros around them are not too many. -/
theorem isPlain_iff (positive : 0 < m.significand) :
    Layout.text.plainFrom ≤ (m.shortest Layout.text.tie).exponent ∧
        (m.shortest Layout.text.tie).exponent < Layout.text.plainBelow ↔
      IsPlain m.ratio.value := by
  -- The number nearest to each end is written as a power of ten itself.
  have small : (Magnitude.millionth.shortest Layout.text.tie).exponent = -6 := by decide +kernel
  have large : (Magnitude.sextillion.shortest Layout.text.tie).exponent = 21 := by decide +kernel
  have least := Magnitude.le_exponent_shortest_iff positive Magnitude.holds_millionth small
  have most := Magnitude.le_exponent_shortest_iff positive Magnitude.holds_sextillion large
  have nearest : IsPlain m.ratio.value ↔
      Magnitude.millionth.ratio.value ≤ m.ratio.value ∧ m.ratio.value < 10 ^ 21 := by
    simp [IsPlain, Magnitude.toBinary64_millionth]
  rw [nearest, ← not_le, ← not_le, ← Magnitude.value_sextillion]
  exact and_congr least (not_congr most)

section Layouts

variable {digits : Nat} {power : Int} {q : ℚ} {negative : Bool}

/-- Digits in place show a number where they end in no zero. -/
theorem showsNumber_inPlace (positive : 0 < digits) (power : Int)
    (last : (Nat.toDigits 10 digits).getLast? ≠ some '0') (plain : IsPlain |q|)
    (sign : negative = decide (q < 0)) :
    ShowsNumber q (Scientific.inPlace negative ⟨Nat.toDigits 10 digits, power⟩) := by
  constructor
  · exact (Scientific.isProper_inPlace positive power negative).spells
  · exact (Scientific.negative_inPlace negative _).trans sign
  -- Digits in place come without a power, and their last one is no zero.
  · intro _
    exact ⟨Scientific.exponent_inPlace negative _,
      Scientific.getLast?_inPlace Nat.toDigits_ne_nil last negative⟩
  · intro far
    exact absurd plain far

/-- Digits with a power of ten show a number that is not written in place. -/
theorem showsNumber_powered (digits : Nat) (power : Int) (far : ¬ IsPlain |q|)
    (sign : negative = decide (q < 0)) :
    ShowsNumber q (Scientific.powered negative ⟨Nat.toDigits 10 digits, power⟩) := by
  constructor
  · exact (Scientific.isProper_powered digits power negative).spells
  · exact sign
  · intro plain
    exact absurd plain far
  -- The power is always written here, behind one digit and its decimals.
  · intro _
    exact ⟨Option.some_ne_none power, Scientific.length_whole_powered Nat.toDigits_ne_nil negative⟩

end Layouts

/-- A positive magnitude is written as its shortest digits, which make up what reads back as it. -/
theorem exists_written (positive : 0 < m.significand) {negative : Bool} {q : ℚ}
    (exact : (Binary64.finite negative m).value? = some q) :
    ∃ n : Numeral, (Binary64.finite negative m).text = n.written ∧
      n.literal.toBinary64 = .finite negative m ∧ ShowsNumber q n := by
  obtain ⟨literal, -, some, shown, shortest⟩ :=
    m.exists_isShortest positive Layout.text.tie negative
  have holds := ((Literal.toBinary64_eq_iff positive).mp shortest.reads).2
  -- The number has a sign as its value has, since it is not zero.
  have sign := Binary64.negative_eq positive exact
  have last := Magnitude.getLast?_shortest positive Layout.text.tie
  have placed := isPlain_iff positive
  rw [← Binary64.abs_value exact] at placed
  have places : (digitCount literal.digits : Int) - 1 - -literal.exponent + 1 -
      digitCount literal.digits = literal.exponent := by ring
  rw [shown, Scientific.ofScaled] at last placed
  rw [Binary64.text, if_neg positive.ne', Layout.write, shown, Scientific.ofScaled]
  generalize (digitCount literal.digits : Int) - 1 - -literal.exponent = power at *
  -- In both layouts the digits stand for what was found to be held by the magnitude.
  split
  · rename_i inside
    refine ⟨Scientific.inPlace negative ⟨Nat.toDigits 10 literal.digits, power⟩, ?_, ?_, ?_⟩
    · -- Nothing is put behind a whole number.
      simp only [Layout.text, ite_self, List.append_nil]
      exact (Scientific.written_inPlace Nat.toDigits_ne_nil negative).symm
    · rw [Literal.toBinary64_eq_iff positive, Scientific.magnitude_inPlace, places]
      exact ⟨Scientific.negative_inPlace negative _, holds⟩
    · exact showsNumber_inPlace some power last (placed.mp inside) sign
  · rename_i outside
    refine ⟨Scientific.powered negative ⟨Nat.toDigits 10 literal.digits, power⟩, ?_, ?_, ?_⟩
    · exact (Scientific.written_powered Nat.toDigits_ne_nil negative).symm
    · rw [Literal.toBinary64_eq_iff positive, Scientific.magnitude_powered, places]
      exact ⟨rfl, holds⟩
    · exact showsNumber_powered literal.digits power (mt placed.mpr outside) sign

/-- A number is the same as itself. -/
theorem Binary64.same_self (real : x ≠ .nan) : x.same x := by
  -- Only what is not a number differs from itself.
  cases x with
  | nan => contradiction
  | infinite negative => simp [same]
  | finite negative m => simp [same]

/-- The text of infinity is read as infinity. -/
theorem ofText?_infinite (negative : Bool) :
    Number.ofText? (Binary64.infinite negative).text = some (.float (.infinite negative)) := by
  cases negative <;> decide

/-- The text of a number is read as the same number, where zeros are the same. Zeros are written
without a sign, infinity by its name, and other numbers in place or with a power of ten. -/
theorem ofText?_text (real : x ≠ .nan) :
    (∃ number, Number.ofText? x.text = some number ∧ number.toBinary64.same x) ∧
      (∀ negative, x = .infinite negative → x.text = minusSign negative ++ "Infinity".toList) ∧
      (x.value? = some 0 → x.text = ['0']) ∧
      ∀ q, x.value? = some q → q ≠ 0 → ∃ n : Numeral, x.text = n.written ∧ ShowsNumber q n := by
  cases x with
  | nan => contradiction
  | infinite negative =>
    refine ⟨⟨_, ofText?_infinite negative, Binary64.same_self real⟩, ?_, nofun, nofun⟩
    rintro _ ⟨⟩
    rfl
  | finite negative m =>
    refine ⟨?_, nofun, ?_, ?_⟩
    · by_cases zero : m.significand = 0
      · -- The digit of zero is read as an integer, which has no sign.
        obtain rfl := m.eq_zero zero
        refine ⟨.int 0, rfl, ?_⟩
        cases negative <;> decide +kernel
      · -- Other numbers are read along the path that their spelling takes, and rounded to
        -- themselves.
        have positive := Nat.pos_of_ne_zero zero
        obtain ⟨n, text, nearest, shows⟩ := exists_written positive rfl
        obtain ⟨number, read, rounded⟩ :=
          ofText?_toBinary64 shows.spelled.decimal positive nearest
        refine ⟨number, text ▸ read, ?_⟩
        rw [rounded]
        exact Binary64.same_self real
    -- A value of zero has no significand, and zero is written as one digit.
    · intro exact
      have none : m.significand = 0 := by
        by_contra some
        exact (Binary64.significand_pos_iff exact).mp (Nat.pos_of_ne_zero some) rfl
      exact if_pos none
    · intro q exact nonzero
      have positive := (Binary64.significand_pos_iff exact).mpr nonzero
      obtain ⟨n, text, -, shows⟩ := exists_written positive exact
      exact ⟨n, text, shows⟩

/-- The shortest digits of a large integer are filled up with zeros and read as another integer,
which is rounded to the number. -/
theorem ofText?_text_filled :
    ∃ x : Binary64, x.value? = some (-2 ^ 62) ∧ x.text = "-4611686018427388000".toList ∧
      Number.ofText? x.text = some (.int (-4611686018427388000)) ∧
      (Number.int (-4611686018427388000)).toBinary64.same x := by
  let m : Magnitude := ⟨2 ^ 52, 1084, by decide, by decide, .inr (by decide)⟩
  have real : Binary64.finite true m ≠ .nan := nofun
  -- The number is a power of two, of which fewer digits are needed than it has.
  have value : m.ratio.value = 2 ^ 62 := by
    have whole := @Magnitude.value_of_shift m 10 rfl
    rw [whole]
    norm_num [m]
  have text : (Binary64.finite true m).text = "-4611686018427388000".toList := by decide +kernel
  have other : Number.ofText? "-4611686018427388000".toList =
      some (.int (-4611686018427388000)) := by decide
  obtain ⟨⟨number, read, same⟩, -⟩ := ofText?_text real
  rw [text, other, Option.some.injEq] at read
  refine ⟨.finite true m, ?_, text, text ▸ other, read ▸ same⟩
  rw [← value]
  rfl

end TextTemplate
