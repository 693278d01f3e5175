import TextTemplate.Number.Text
import TextTemplate.Proofs.Json.Unambiguous
import TextTemplate.Proofs.Json.Writer
import TextTemplate.Proofs.Number.Truncation

/-! The text of a number is a minus, where the number is negative, and digits or the name of
infinity behind it. -/

namespace TextTemplate

/-- Whether a number is below zero. -/
def Number.IsNegative (number : Number) : Prop :=
  number = .float (.infinite true) ∨ ∃ q, number.value? = some q ∧ q < 0

/-- The zero with a minus. -/
def Number.negativeZero : Number :=
  .float (.finite true .zero)

/-- Characters begin with a digit. -/
def LeadsDigit (cs : List Char) : Prop :=
  ∃ c rest, cs = c :: rest ∧ c.isDigit

/-- Characters begin as a number without a sign does: with a digit or the name of infinity. -/
def BeginsNumber (cs : List Char) : Prop :=
  ∃ c rest, cs = c :: rest ∧ (c.isDigit ∨ c = 'I')

/-- A text is a number behind a minus or without one. -/
def ShowsSign (negative : Bool) (text : List Char) : Prop :=
  ∃ body, text = minusSign negative ++ body ∧ BeginsNumber body

section Leading

variable {cs : List Char} {s : Scientific} {m : Magnitude}

/-- What stands behind digits does not count. -/
theorem LeadsDigit.append (leads : LeadsDigit cs) (others : List Char) :
    LeadsDigit (cs ++ others) := by
  -- The first character stays where it is.
  obtain ⟨c, rest, rfl, digit⟩ := leads
  exact ⟨c, rest ++ others, rfl, digit⟩

/-- Some of the first characters begin as all of them. -/
theorem LeadsDigit.take (leads : LeadsDigit cs) {count : Nat} (some : 0 < count) :
    LeadsDigit (cs.take count) := by
  -- At least one character is taken, and the first is among them.
  obtain ⟨c, rest, rfl, digit⟩ := leads
  exact ⟨c, rest.take (count - 1), List.take_cons some, digit⟩

/-- A number that begins with a digit begins as one. -/
theorem LeadsDigit.begins (leads : LeadsDigit cs) : BeginsNumber cs := by
  obtain ⟨c, rest, split, digit⟩ := leads
  exact ⟨c, rest, split, .inl digit⟩

/-- The digits of a number begin with a digit. -/
theorem leadsDigit_toDigits (n : Nat) : LeadsDigit (Nat.toDigits 10 n) :=
  (Json.isDigits_toDigits n).head

/-- Digits behind zeros begin with a digit. -/
theorem leadsDigit_zeros (zeros n : Nat) :
    LeadsDigit (List.replicate zeros '0' ++ Nat.toDigits 10 n) := by
  -- Either a zero of the padding comes first, or the digits do.
  cases zeros with
  | zero => exact leadsDigit_toDigits n
  | succ zeros => exact ⟨'0', List.replicate zeros '0' ++ Nat.toDigits 10 n, rfl, by decide⟩

/-- A number in place begins with a digit. -/
theorem LeadsDigit.plain (leads : LeadsDigit s.digits) : LeadsDigit s.plain := by
  unfold Scientific.plain
  -- The point may stand behind all digits, among them, or in front of them.
  split
  · split
    · exact leads.append _
    · exact (leads.take (Nat.succ_pos _)).append _
  · -- Below one, a zero of its own stands before the point.
    exact ⟨'0', _, rfl, by decide⟩

/-- A number with a power of ten begins with a digit. -/
theorem LeadsDigit.exponential (leads : LeadsDigit s.digits) : LeadsDigit s.exponential := by
  obtain ⟨c, rest, split, digit⟩ := leads
  unfold Scientific.exponential
  rw [split]
  -- The point, if there is any, stands behind the first digit.
  cases rest with
  | nil => exact ⟨c, _, rfl, digit⟩
  | cons second rest => exact ⟨c, _, rfl, digit⟩

/-- Significant digits begin with one of them. -/
theorem leadsDigit_significant (r : Ratio) {count : Nat} (some : 0 < count) :
    LeadsDigit (r.significant count).digits := by
  unfold Ratio.significant
  split
  -- Zero is written with as many zeros as digits are asked for.
  · obtain ⟨more, rfl⟩ := Nat.exists_eq_succ_of_ne_zero some.ne'
    exact ⟨'0', List.replicate more '0', rfl, by decide⟩
  · simp only
    split
    · exact leadsDigit_toDigits _
    · exact leadsDigit_toDigits _

/-- A number with a count of decimals begins with a digit before its point. -/
theorem leadsDigit_fixed (r : Ratio) (decimals : Nat) : LeadsDigit (r.fixed decimals) := by
  have leads := leadsDigit_zeros
    (decimals + 1 - (Nat.toDigits 10 (r.scaled decimals).round).length) (r.scaled decimals).round
  unfold Ratio.fixed
  simp only
  split
  · exact leads
  · -- The zeros in front see to it that the decimals do not take all digits.
    refine (leads.take ?_).append _
    rw [List.length_append, List.length_replicate]
    omega

/-- The shortest digits begin with one of them. -/
theorem leadsDigit_shortest (positive : 0 < m.significand) (tie : Tie) :
    LeadsDigit (m.shortest tie).digits := by
  obtain ⟨digits, exponent, shortest, -⟩ := m.shortest_spec positive tie
  rw [shortest]
  exact leadsDigit_toDigits digits

/-- A positive magnitude begins with a digit. -/
theorem leadsDigit_write (positive : 0 < m.significand) (layout : Layout) :
    LeadsDigit (layout.write m) := by
  -- Both layouts begin with the shortest digits or with a zero in front of them.
  have leads := leadsDigit_shortest positive layout.tie
  unfold Layout.write
  simp only
  split
  · exact leads.plain.append _
  · exact leads.exponential

end Leading

section Signed

variable {x : Binary64} {m : Magnitude}

/-- A magnitude without a significand is zero. -/
theorem Magnitude.eq_zero (none : m.significand = 0) : m = .zero := by
  -- A significand without its top bit leaves no shift.
  obtain ⟨significand, shift, _, _, canonical⟩ := m
  obtain rfl : significand = 0 := none
  obtain rfl : shift = 0 := canonical.resolve_right (by decide)
  rfl

/-- A finite number is negative when it has a minus and a significand. -/
theorem Binary64.not_nonnegative_finite (negative : Bool) (m : Magnitude) :
    (!(finite negative m).nonnegative) = (negative && m.significand ≠ 0) := by
  simp [nonnegative]

/-- The shortest text of a number shows its sign. -/
theorem Binary64.showsSign_text (real : x ≠ .nan) : ShowsSign (!x.nonnegative) x.text := by
  cases x with
  | nan => contradiction
  | infinite negative =>
    rw [nonnegative, Bool.not_not]
    exact ⟨_, rfl, 'I', _, rfl, .inr rfl⟩
  | finite negative m =>
    rw [not_nonnegative_finite, text]
    -- Zero is written without its minus, and anything else with it.
    by_cases zero : m.significand = 0
    · rw [if_pos zero, decide_eq_false (not_not.mpr zero), Bool.and_false]
      exact ⟨['0'], rfl, '0', [], rfl, .inl (by decide)⟩
    · rw [if_neg zero, decide_eq_true zero, Bool.and_true]
      exact ⟨_, rfl, (leadsDigit_write (Nat.pos_of_ne_zero zero) _).begins⟩

/-- A text with a count of decimals shows the sign of its number. -/
theorem showsSign_fixedText (real : x ≠ .nan) (decimals : Nat) :
    ShowsSign (!x.nonnegative) (fixedText decimals x) := by
  cases x with
  | nan => contradiction
  | infinite negative => exact Binary64.showsSign_text real
  | finite negative m =>
    -- Zero loses its minus here too.
    rw [Binary64.not_nonnegative_finite]
    exact ⟨_, rfl, (leadsDigit_fixed m.ratio decimals).begins⟩

/-- A text with a count of significant digits shows the sign of its number. -/
theorem showsSign_generalText (real : x ≠ .nan) (precision : Nat) :
    ShowsSign (!x.nonnegative) (generalText precision x) := by
  cases x with
  | nan => contradiction
  | infinite negative => exact Binary64.showsSign_text real
  | finite negative m =>
    have counted : 0 < max precision 1 := lt_max_of_lt_right Nat.one_pos
    have leads := leadsDigit_significant m.ratio counted
    rw [Binary64.not_nonnegative_finite]
    refine ⟨_, rfl, ?_⟩
    -- Either notation begins with the digits, and at least one digit is asked for.
    split
    · exact leads.exponential.begins
    · exact (leadsDigit_fixed m.ratio _).begins

/-- A text with a power of ten shows the sign of its number, and the minus of a zero. -/
theorem showsSign_exponentialText (real : x ≠ .nan) (precision : Option Nat) :
    ShowsSign (!x.nonnegative || x = .finite true .zero) (exponentialText precision x) := by
  cases x with
  | nan => contradiction
  | infinite negative =>
    rw [decide_eq_false nofun, Bool.or_false]
    exact Binary64.showsSign_text real
  | finite negative m =>
    -- The text has the minus of the number as it is, which tells zeros apart.
    have sign : (!(Binary64.finite negative m).nonnegative ||
        decide (Binary64.finite negative m = .finite true .zero)) = negative := by
      rw [Binary64.not_nonnegative_finite]
      cases negative with
      | false => simp
      | true =>
        by_cases zero : m.significand = 0
        · simp [Magnitude.eq_zero zero]
        · simp [zero]
    rw [sign]
    refine ⟨_, rfl, LeadsDigit.begins (LeadsDigit.exponential ?_)⟩
    cases precision with
    | some decimals => exact leadsDigit_significant m.ratio (Nat.succ_pos decimals)
    | none =>
      simp only
      split
      · exact ⟨'0', [], rfl, by decide⟩
      · rename_i positive
        exact leadsDigit_shortest (Nat.pos_of_ne_zero positive) _

end Signed

section Rounded

variable {m : Magnitude} {number : Number}

/-- What holds a number from one on is not zero. -/
theorem Magnitude.Holds.significand_pos {q : ℚ} (holds : m.Holds q) (large : 1 ≤ q) :
    0 < m.significand := by
  refine Nat.pos_of_ne_zero fun none => ?_
  rw [Magnitude.eq_zero none] at holds
  -- Zero holds no more than half a step, and its step is the least.
  have upper := (Between.bounds holds).2
  have value : Magnitude.zero.ratio.value = 0 := by
    rw [Magnitude.value_ratio]
    exact mul_eq_zero_of_left Nat.cast_zero _
  have step : Magnitude.zero.step ≤ 1 := by
    rw [Magnitude.step, div_le_one (by positivity)]
    exact pow_le_pow_right₀ one_le_two (Nat.zero_le 1074)
  linarith

/-- Units are rounded to a magnitude or to infinity, and keep their sign. -/
theorem Binary64.ofUnits_cases (negative : Bool) (units : Ratio) :
    Binary64.ofUnits negative units = .infinite negative ∨
      ∃ m, Binary64.ofUnits negative units = .finite negative m := by
  -- There is a nearest magnitude or there is none.
  unfold ofUnits
  split
  · exact .inr ⟨_, rfl⟩
  · exact .inl rfl

/-- An integer is rounded to a magnitude or to infinity, and keeps its sign. -/
theorem Binary64.ofInt_cases (n : Int) :
    Binary64.ofInt n = .infinite (n < 0) ∨ ∃ m, Binary64.ofInt n = .finite (n < 0) m := by
  rw [ofInt, ofRatio]
  exact ofUnits_cases _ _

/-- A negative integer is not rounded to zero. -/
theorem Binary64.significand_pos_of_ofInt {n : Int} {sign : Bool} (negative : n < 0)
    (rounded : Binary64.ofInt n = .finite sign m) : 0 < m.significand := by
  -- An integer below zero is at least one without its sign, and zero does not hold that.
  obtain ⟨-, holds⟩ := ofRatio_eq_iff.mp rounded
  refine holds.significand_pos ?_
  rw [value_ofNat]
  exact_mod_cast show 1 ≤ n.natAbs by omega

namespace Number

/-- An integer is at least zero when it has no minus. -/
theorem nonnegative_int (n : Int64) : (int n).nonnegative = !decide (n.toInt < 0) := by
  rw [nonnegative, ← decide_not, decide_eq_decide, not_lt]

/-- An integer is rounded to a number. -/
theorem toBinary64_ne_nan (real : number ≠ .float .nan) : number.toBinary64 ≠ .nan := by
  cases number with
  | int n =>
    rw [toBinary64]
    -- Rounding an integer gives a finite number or an infinite one.
    rcases Binary64.ofInt_cases n.toInt with infinite | ⟨m, finite⟩
    · rw [infinite]
      exact nofun
    · rw [finite]
      exact nofun
  | float x => exact fun nothing => real (congrArg float nothing)

/-- An integer is rounded to a number of its sign. -/
theorem nonnegative_toBinary64 : number.toBinary64.nonnegative = number.nonnegative := by
  cases number with
  | int n =>
    rw [toBinary64, nonnegative_int]
    rcases Binary64.ofInt_cases n.toInt with infinite | ⟨m, finite⟩
    · rw [infinite, Binary64.nonnegative]
    · rw [finite, Binary64.nonnegative]
      -- Only a significand tells a negative number from the zero with a minus.
      by_cases negative : n.toInt < 0
      · have positive := Binary64.significand_pos_of_ofInt negative finite
        rw [decide_eq_false positive.ne', Bool.or_false]
      · rw [decide_eq_false negative, Bool.not_false, Bool.true_or]
  | float x => rfl

/-- Only a zero with a minus is rounded to one. -/
theorem toBinary64_eq_negativeZero_iff :
    number.toBinary64 = .finite true .zero ↔ number = .negativeZero := by
  cases number with
  | int n =>
    refine ⟨fun rounded => ?_, nofun⟩
    -- An integer with a minus is not rounded to zero.
    have negative := (Binary64.ofRatio_eq_iff.mp rounded).1
    exact absurd (Binary64.significand_pos_of_ofInt (of_decide_eq_true negative) rounded)
      (by decide)
  | float x => exact (Number.float.injEq x _).symm.to_iff

/-- The text of a number shows its sign. -/
theorem showsSign_text (real : number ≠ .float .nan) :
    ShowsSign (!number.nonnegative) number.text := by
  cases number with
  | int n =>
    -- An integer is written by its sign and digits.
    rw [nonnegative_int, Bool.not_not, text, repr_toList]
    exact ⟨_, rfl, (leadsDigit_toDigits _).begins⟩
  | float x => exact x.showsSign_text fun nothing => real (congrArg float nothing)

/-- A number is below zero when it is not at least zero. -/
theorem isNegative_iff (real : number ≠ .float .nan) :
    number.IsNegative ↔ number.nonnegative = false := by
  cases value : number.value? with
  | some q =>
    -- A number with a value is not infinite.
    have finite : number ≠ .float (.infinite true) := by
      rintro rfl
      contradiction
    simp only [IsNegative, finite, value, Option.some.injEq, exists_eq_left', false_or]
    rw [← not_le, ← nonnegative_iff value, Bool.not_eq_true]
  | none =>
    -- What has no value and is a number is infinite.
    cases number with
    | int n => contradiction
    | float x =>
      cases x with
      | nan => contradiction
      | finite negative m => contradiction
      | infinite negative => cases negative <;> simp [IsNegative, value, nonnegative,
          Binary64.nonnegative]

/-- A number that has a value is below zero where the value is. -/
theorem isNegative_iff_value {q : ℚ} (exact : number.value? = some q) :
    number.IsNegative ↔ q < 0 := by
  -- Infinity has no value.
  have finite : number ≠ .float (.infinite true) := by
    rintro rfl
    contradiction
  simp only [IsNegative, finite, exact, Option.some.injEq, exists_eq_left', false_or]

/-- A finite number is below zero where it has a minus and is not zero. -/
theorem isNegative_finite_iff (negative : Bool) (m : Magnitude) :
    (float (.finite negative m)).IsNegative ↔
      negative ∧ (float (.finite negative m)).value? ≠ some 0 := by
  have least := value_nonneg m.ratio
  rw [isNegative_iff_value rfl]
  -- Without a minus a number is at least zero. With one it is below, unless it is zero.
  cases negative with
  | false => simpa [value?, Binary64.value?] using least
  | true =>
    simp only [value?, Binary64.value?, if_true, Left.neg_neg_iff, ne_eq, Option.some.injEq,
      neg_eq_zero, true_and]
    exact ⟨fun positive => positive.ne', fun some => lt_of_le_of_ne least (Ne.symm some)⟩

/-- An infinite number is below zero where it has a minus. -/
theorem isNegative_infinite_iff (negative : Bool) :
    (float (.infinite negative)).IsNegative ↔ negative := by
  simp [IsNegative, value?, Binary64.value?]

/-- An integer, rounded where 64 bits do not hold it, is below zero where it was before. -/
theorem isNegative_ofInt_iff (n : Int) : (ofInt n).IsNegative ↔ n < 0 := by
  unfold ofInt
  split
  · rename_i fits
    rw [isNegative_iff_value rfl, toInt_ofInt_of_fitsInt64 fits]
    exact Int.cast_lt_zero
  -- A rounded integer keeps its sign, also where it becomes infinite.
  · rcases Binary64.ofInt_cases n with infinite | ⟨m, finite⟩
    · rw [infinite, isNegative_infinite_iff, decide_eq_true_iff]
    · rw [finite, isNegative_finite_iff]
      refine (and_iff_left_of_imp fun negative => ?_).trans decide_eq_true_iff
      -- A negative integer has a significand.
      have positive := m.value_ratio_pos_iff.mpr
        (Binary64.significand_pos_of_ofInt (of_decide_eq_true negative) finite)
      rw [negative]
      exact fun zero => positive.ne' (neg_eq_zero.mp (Option.some.inj zero))

end Number

end Rounded

end TextTemplate
