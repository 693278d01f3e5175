import TextTemplate.Proofs.Number.Rounding
import TextTemplate.Proofs.Number.Shortest

/-! The shortest digits of a magnitude are the fewest that read back as it, and nearest to it among
as many. -/

namespace TextTemplate.Magnitude

variable {m : Magnitude} {tie : Tie} {count : Nat}

/-- A magnitude lies inside the range that it holds, away from the ends. -/
theorem inside (m : Magnitude) :
    m.ratio.value - m.stepBelow / 2 < m.ratio.value ∧
      m.ratio.value < m.ratio.value + m.step / 2 := by
  -- Steps are positive on both sides.
  have above := m.step_pos
  have below := m.stepBelow_pos
  constructor <;> linarith

/-- What lies between a number that is held below a magnitude and the magnitude is held. -/
theorem Holds.up {q other : ℚ} (holds : m.Holds q) (above : q ≤ other)
    (below : other ≤ m.ratio.value) : m.Holds other :=
  Between.up holds above (below.trans_lt m.inside.2)

/-- What lies between a magnitude and a number that is held above it is held. -/
theorem Holds.down {q other : ℚ} (holds : m.Holds q) (below : other ≤ q)
    (above : m.ratio.value ≤ other) : m.Holds other :=
  Between.down holds below (m.inside.1.trans_le above)

/-- The value of the last of a count of digits. -/
def lastDigit (m : Magnitude) (count : Nat) : ℚ :=
  10 ^ (-m.places count)

/-- The last digit has a positive value. -/
theorem lastDigit_pos (m : Magnitude) (count : Nat) : 0 < m.lastDigit count :=
  zpow_pos (by norm_num) _

/-- A magnitude counted in its last digit is that many times the value of the digit. -/
theorem value_eq_inLast (m : Magnitude) (count : Nat) :
    m.ratio.value = (m.inLast count).value * m.lastDigit count := by
  rw [inLast, value_scaled, lastDigit, zpow_neg,
    mul_inv_cancel_right₀ (zpow_ne_zero _ (by norm_num))]

/-- A number of last digits reads back when its value is held. -/
theorem reads_iff (positive : 0 < m.significand) {n : Nat} :
    m.reads count n ↔ m.Holds (n * m.lastDigit count) := by
  -- What covers a number is told by its value.
  rw [reads, covers_iff_holds positive, value_scaled, value_ofNat, lastDigit]

/-- A positive magnitude lies between two powers of ten. -/
theorem leadingExponent_bounds (positive : 0 < m.significand) :
    (10 : ℚ) ^ m.ratio.leadingExponent ≤ m.ratio.value ∧
      m.ratio.value < 10 ^ (m.ratio.leadingExponent + 1) := by
  -- The exponent of the leading digit is the logarithm of the value.
  have value : 0 < m.ratio.value := m.value_ratio_pos_iff.mpr positive
  rw [leadingExponent_eq ((value_pos_iff _).mp value)]
  exact ⟨Int.zpow_log_le_self (by decide) value, Int.lt_zpow_succ_log_self (by decide) _⟩

/-- A power of ten of last digits is one of the leading digit. -/
theorem tenPow_mul_lastDigit (m : Magnitude) (count power : Nat) :
    (10 ^ power : Nat) * m.lastDigit count =
      10 ^ (m.ratio.leadingExponent + power + 1 - count) := by
  -- Powers of ten are multiplied by adding their exponents.
  rw [Nat.cast_pow, lastDigit, places, ← zpow_natCast, Nat.cast_ofNat, ← zpow_add₀ (by norm_num)]
  congr 1
  ring

/-- Where a number of last digits is held, the neighbour on its side is. -/
theorem reads_neighbour (positive : 0 < m.significand) {other : Nat}
    (holds : m.Holds (other * m.lastDigit count)) :
    other ≤ (m.inLast count).num / (m.inLast count).den ∧
        m.reads count ((m.inLast count).num / (m.inLast count).den) ∨
      (m.inLast count).num / (m.inLast count).den + 1 ≤ other ∧
        m.reads count ((m.inLast count).num / (m.inLast count).den + 1) := by
  obtain ⟨lower, upper⟩ := whole_bounds (m.inLast count)
  have digit := m.lastDigit_pos count
  -- No number of last digits lies between the two neighbours.
  rcases Nat.lt_or_ge ((m.inLast count).num / (m.inLast count).den) other with more | less
  -- The number lies above, and the upper neighbour between it and the magnitude.
  · refine .inr ⟨more, (reads_iff positive).mpr (holds.down ?_ ?_)⟩
    · gcongr
      exact more
    · rw [value_eq_inLast m count, Nat.cast_succ]
      gcongr
  -- The number lies below, and the lower neighbour between it and the magnitude.
  · refine .inl ⟨less, (reads_iff positive).mpr (holds.up ?_ ?_)⟩
    · gcongr
    · rw [value_eq_inLast m count]
      gcongr

/-- The distance of a number of last digits to a magnitude is counted in last digits. -/
theorem abs_sub_value (m : Magnitude) (count n : Nat) :
    |n * m.lastDigit count - m.ratio.value| =
      |n - (m.inLast count).value| * m.lastDigit count := by
  -- The magnitude is counted in last digits too, so their value can be taken out.
  rw [value_eq_inLast m count, ← sub_mul, abs_mul, abs_of_pos (m.lastDigit_pos count)]

/-- A lower neighbour is the nearest of the numbers on its side, and of those on the other side too
where it is no further than a half away. -/
theorem abs_sub_le_lower {n other : Nat} {q : ℚ} (reached : n ≤ q)
    (side : other ≤ n ∨ n + 1 ≤ other ∧ q ≤ n + 1 / 2) : |n - q| ≤ |other - q| := by
  rw [abs_of_nonpos (sub_nonpos.mpr reached)]
  -- A number below is further off. One above is at least a whole off, less the half at most.
  rcases side with less | ⟨more, half⟩
  · have less : (other : ℚ) ≤ n := by exact_mod_cast less
    rw [abs_of_nonpos (by linarith)]
    linarith
  · have more : (n : ℚ) + 1 ≤ other := by exact_mod_cast more
    rw [abs_of_nonneg (by linarith)]
    linarith

/-- An upper neighbour is the nearest of the numbers on its side, and of those on the other side
too where it is no further than a half away. -/
theorem abs_sub_le_upper {n other : Nat} {q : ℚ} (reached : q ≤ n)
    (side : n ≤ other ∨ other + 1 ≤ n ∧ n - 1 / 2 ≤ q) : |n - q| ≤ |other - q| := by
  rw [abs_of_nonneg (sub_nonneg.mpr reached)]
  -- The same holds with the sides exchanged.
  rcases side with more | ⟨less, half⟩
  · have more : (n : ℚ) ≤ other := by exact_mod_cast more
    rw [abs_of_nonneg (by linarith)]
    linarith
  · have less : (other : ℚ) + 1 ≤ n := by exact_mod_cast less
    rw [abs_of_nonpos (by linarith)]
    linarith

/-- A magnitude counted in its last digits is less than the power of ten of their count. -/
theorem whole_lt (positive : 0 < m.significand) (count : Nat) :
    (m.inLast count).num / (m.inLast count).den < 10 ^ count := by
  -- The magnitude is less than the power of ten behind its leading digit.
  have digit := m.lastDigit_pos count
  have below : (m.inLast count).value < (10 ^ count : Nat) := by
    refine lt_of_mul_lt_mul_right ?_ digit.le
    rw [← value_eq_inLast, tenPow_mul_lastDigit, show m.ratio.leadingExponent + count + 1 - count =
      m.ratio.leadingExponent + 1 by ring]
    exact (leadingExponent_bounds positive).2
  exact_mod_cast (whole_bounds (m.inLast count)).1.trans_lt below

/-- A candidate reads back as the magnitude, has no more digits than counted but for a power of
ten, and is the nearest of these. -/
theorem candidate?_spec (positive : 0 < m.significand) {s : Scientific}
    (found : m.candidate? tie count = some s) :
    ∃ n, (Scientific.ofScaled n (m.places count)).trimmed = s ∧
      m.Holds (n * m.lastDigit count) ∧ n ≤ 10 ^ count ∧
      ∀ other : Nat, m.Holds (other * m.lastDigit count) →
        |n * m.lastDigit count - m.ratio.value| ≤
          |other * m.lastDigit count - m.ratio.value| := by
  obtain ⟨n, read, shown, choice⟩ := candidate?_chosen found
  obtain ⟨lower, upper⟩ := whole_bounds (m.inLast count)
  have whole := whole_lt positive count
  refine ⟨n, shown, (reads_iff positive).mp read, ?_, ?_⟩
  -- The lower neighbour has no more digits than counted. The upper one may be the power of ten.
  · rcases choice with ⟨rfl, -⟩ | ⟨rfl, -⟩
    · exact whole.le
    · exact whole
  · intro other holds
    rw [abs_sub_value, abs_sub_value]
    refine mul_le_mul_of_nonneg_right ?_ (m.lastDigit_pos count).le
    -- On the side of the other number the neighbour is nearer, and it is read as well.
    have side := reads_neighbour positive holds
    rcases choice with ⟨rfl, near⟩ | ⟨rfl, near⟩
    · refine abs_sub_le_lower lower (side.imp And.left fun ⟨more, next⟩ => ⟨more, ?_⟩)
      exact not_lt.mp (mt lt_two_mul_mod_iff.mpr (not_lt.mpr (near next)))
    · refine abs_sub_le_upper (by exact_mod_cast upper.le)
        (side.symm.imp And.left fun ⟨less, next⟩ => ⟨Nat.succ_le_succ less, ?_⟩)
      have half := not_lt.mp (mt two_mul_mod_lt_iff.mpr (not_lt.mpr (near next)))
      push_cast
      linarith

/-- A decimal number of no more digits than counted is no nearer than one of last digits that is
held where it is. -/
theorem exists_lastDigits {digits : Nat} {exponent : Int} (positive : 0 < m.significand)
    (some : 0 < count) (few : digits < 10 ^ count) (holds : m.Holds (digits * 10 ^ exponent)) :
    ∃ n : Nat, m.Holds (n * m.lastDigit count) ∧
      |n * m.lastDigit count - m.ratio.value| ≤ |digits * 10 ^ exponent - m.ratio.value| := by
  by_cases coarse : -m.places count ≤ exponent
  · -- The number is itself made up of last digits.
    obtain ⟨zeros, rfl⟩ := Int.le.dest coarse
    refine ⟨digits * 10 ^ zeros, ?_⟩
    have same : ((digits * 10 ^ zeros : Nat) : ℚ) * m.lastDigit count =
        digits * 10 ^ (-m.places count + zeros) := by
      rw [zpow_add₀ (by norm_num), zpow_natCast, lastDigit]
      push_cast
      ring
    rw [same]
    exact ⟨holds, le_refl _⟩
  · -- The number is below the leading power of ten, which is no further from the magnitude.
    have leading : (10 ^ (count - 1) : Nat) * m.lastDigit count = 10 ^ m.ratio.leadingExponent := by
      rw [tenPow_mul_lastDigit]
      congr 1
      omega
    have reached := (leadingExponent_bounds positive).1
    have below : (digits : ℚ) * 10 ^ exponent ≤ 10 ^ m.ratio.leadingExponent := calc
      (digits : ℚ) * 10 ^ exponent
        ≤ (10 ^ count : Nat) * 10 ^ exponent :=
          mul_le_mul_of_nonneg_right (by exact_mod_cast few.le) (zpow_pos (by norm_num) _).le
      _ = 10 ^ (count + exponent) := by
        rw [zpow_add₀ (by norm_num), zpow_natCast, Nat.cast_pow, Nat.cast_ofNat]
      _ ≤ 10 ^ m.ratio.leadingExponent := by
        refine zpow_le_zpow_right₀ (by norm_num) ?_
        rw [places] at coarse
        omega
    refine ⟨10 ^ (count - 1), ?_⟩
    rw [leading]
    refine ⟨holds.up below reached, ?_⟩
    rw [abs_of_nonpos (by linarith), abs_of_nonpos (by linarith)]
    linarith

/-- Where a number of last digits is held, there is a candidate. -/
theorem candidate?_isSome_of_holds (positive : 0 < m.significand) (tie : Tie) {n : Nat}
    (holds : m.Holds (n * m.lastDigit count)) : (m.candidate? tie count).isSome := by
  -- One of the two neighbours is read, and so it is a candidate.
  apply candidate?_isSome
  rcases reads_neighbour positive holds with ⟨-, read⟩ | ⟨-, read⟩
  · exact .inl read
  · exact .inr read

/-- The last of seventeen digits is less than the range that a magnitude holds. -/
theorem lastDigit_lt (positive : 0 < m.significand) :
    m.lastDigit 17 < (m.stepBelow + m.step) / 2 := by
  have step := m.step_pos
  have leading : (10 ^ 16 : Nat) * m.lastDigit 17 = 10 ^ m.ratio.leadingExponent := by
    rw [tenPow_mul_lastDigit]
    congr 1
    ring
  have reached := (leadingExponent_bounds positive).1
  rw [← leading, value_ratio] at reached
  norm_num at reached
  unfold stepBelow
  split
  · -- A power of two has no more than 52 bits below its own.
    rename_i least
    rw [least.1, cast_twoPow] at reached
    linarith
  -- Otherwise the step is the same on both sides, and the significand has at most 53 bits.
  · have most : (m.significand : ℚ) < 2 ^ 53 := by exact_mod_cast m.significand_lt
    have := mul_lt_mul_of_pos_right most step
    linarith

/-- Seventeen digits tell a magnitude apart. -/
theorem exists_seventeen (positive : 0 < m.significand) :
    ∃ n : Nat, m.Holds (n * m.lastDigit 17) := by
  have digit := m.lastDigit_pos 17
  have wide := lastDigit_lt positive
  have low : 0 ≤ m.ratio.value - m.stepBelow / 2 := by
    linarith [m.step_pos, m.stepBelow_le, step_le_value positive]
  -- The first number of last digits above the lower end lies below the upper one.
  refine ⟨⌊(m.ratio.value - m.stepBelow / 2) / m.lastDigit 17⌋₊ + 1, between_of_lt ?_ ?_⟩
  · rw [← div_lt_iff₀ digit]
    push_cast
    exact Nat.lt_floor_add_one _
  · have reached : (⌊(m.ratio.value - m.stepBelow / 2) / m.lastDigit 17⌋₊ : ℚ) * m.lastDigit 17 ≤
        m.ratio.value - m.stepBelow / 2 := by
      rw [← le_div_iff₀ digit]
      exact Nat.floor_le (by positivity)
    push_cast
    linarith

/-- The shortest digits are the first candidate, and fewer digits have none. -/
theorem shortest_found (positive : 0 < m.significand) (tie : Tie) :
    ∃ count, 0 < count ∧ m.candidate? tie count = some (m.shortest tie) ∧
      ∀ fewer, 0 < fewer → fewer < count → m.candidate? tie fewer = none := by
  unfold shortest
  cases found : (List.range' 1 17).findSome? (m.candidate? tie) with
  | none =>
    -- There are no more than seventeen digits to try, since these always suffice.
    obtain ⟨n, holds⟩ := exists_seventeen positive
    have none := List.findSome?_eq_none_iff.mp found 17 (by decide)
    have some := candidate?_isSome_of_holds positive tie holds
    rw [none] at some
    exact absurd some nofun
  | some s =>
    -- What is tried before the candidate are all the smaller counts.
    obtain ⟨front, count, rest, split, candidate, none⟩ := List.findSome?_eq_some_iff.mp found
    obtain ⟨k, -, rfl, behind⟩ := List.range'_eq_append_iff.mp split
    obtain ⟨first, -⟩ := List.range'_eq_cons_iff.mp behind.symm
    refine ⟨count, by omega, candidate, fun fewer some less => none fewer ?_⟩
    rw [List.mem_range'_1]
    omega

/-- The shortest digits are those of a number that is read as the magnitude. No number with fewer
digits is, and none with as many is nearer. -/
theorem shortest_spec (positive : 0 < m.significand) (tie : Tie) :
    ∃ (digits : Nat) (exponent : Int),
      m.shortest tie = Scientific.ofScaled digits (-exponent) ∧ 0 < digits ∧
      m.Holds (digits * 10 ^ exponent) ∧
      ∀ (other : Nat) (power : Int), m.Holds (other * 10 ^ power) →
        digitCount digits ≤ digitCount other ∧
        (digitCount other = digitCount digits →
          |digits * 10 ^ exponent - m.ratio.value| ≤ |other * 10 ^ power - m.ratio.value|) := by
  obtain ⟨count, some, candidate, none⟩ := shortest_found positive tie
  obtain ⟨n, shown, holds, most, nearest⟩ := candidate?_spec positive candidate
  -- A positive magnitude does not hold zero.
  have held : 0 < n := by
    have value : 0 < m.ratio.value := m.value_ratio_pos_iff.mpr positive
    have held : 0 < n * m.lastDigit count := (half_pos value).trans_le (holds.bounds positive).1
    exact_mod_cast pos_of_mul_pos_left held (m.lastDigit_pos count).le
  -- The zeros at the end of the candidate go to the power of ten.
  obtain ⟨digits, zeros, rfl, last, trimmed⟩ :=
    Scientific.exists_trimmed held (m.places count)
  have value : ((digits * tenPow zeros : Nat) : ℚ) * m.lastDigit count =
      digits * 10 ^ ((zeros : Int) - m.places count) := by
    rw [Nat.cast_mul, cast_tenPow, lastDigit, sub_eq_add_neg, zpow_add₀ (by norm_num),
      zpow_natCast, mul_assoc]
  -- A power of ten is left with one digit only, so no more than the count are left.
  have few : digits < 10 ^ count := by
    refine lt_of_le_of_ne ((Nat.le_mul_of_pos_right _ (tenPow_pos zeros)).trans most) ?_
    rintro rfl
    exact last (Nat.mod_eq_zero_of_dvd (dvd_pow_self 10 some.ne'))
  have short : digitCount digits ≤ count :=
    (Nat.length_toDigits_le_iff (by decide) some).mpr few
  refine ⟨digits, zeros - m.places count, ?_, by omega, value ▸ holds, ?_⟩
  · rw [← shown, trimmed, neg_sub]
  · intro other power also
    have more : 0 < digitCount other := Nat.length_toDigits_pos
    constructor
    · -- With fewer digits there would have been a candidate before.
      by_contra! fewer
      obtain ⟨earlier, read, -⟩ := exists_lastDigits positive more
        ((Nat.length_toDigits_le_iff (by decide) more).mp (le_refl _)) also
      have found := candidate?_isSome_of_holds positive tie read
      rw [none _ more (by omega)] at found
      exact absurd found nofun
    · -- A neighbour is as near as any number with as many digits, and the candidate nearer still.
      intro same
      obtain ⟨neighbour, read, near⟩ := exists_lastDigits positive some
        ((Nat.length_toDigits_le_iff (by decide) some).mp (same.trans_le short)) also
      rw [← value]
      exact (nearest neighbour read).trans near

end TextTemplate.Magnitude

namespace TextTemplate

/-- The value of a finite number. -/
def Binary64.value? : Binary64 → Option ℚ
  | .finite negative m => some (if negative then -m.ratio.value else m.ratio.value)
  | _ => none

/-- A literal that reads back as a number, with the fewest digits that do and, among as many, no
further from it than others. -/
structure Literal.IsShortest (literal : Literal) (x : Binary64) : Prop where
  reads : literal.toBinary64 = x
  fewest : ∀ other : Literal, other.toBinary64 = x →
    digitCount literal.digits ≤ digitCount other.digits
  nearest : ∀ other : Literal, other.toBinary64 = x →
    digitCount other.digits = digitCount literal.digits →
      ∀ q ∈ x.value?, |literal.value - q| ≤ |other.value - q|

/-- Two values of one sign are as far apart as their magnitudes. -/
theorem Literal.abs_value_sub (literal : Literal) (q : ℚ) :
    |literal.value - if literal.negative then -q else q| = |literal.magnitude - q| := by
  -- The minus is on both values or on none.
  unfold value
  split
  · rw [neg_sub_neg, abs_sub_comm]
  · rfl

/-- The shortest digits of a positive magnitude make up a shortest literal, whatever the sign. -/
theorem Magnitude.exists_isShortest {m : Magnitude} (positive : 0 < m.significand) (tie : Tie)
    (negative : Bool) :
    ∃ literal : Literal, literal.negative = negative ∧ 0 < literal.digits ∧
      m.shortest tie = Scientific.ofScaled literal.digits (-literal.exponent) ∧
      literal.IsShortest (.finite negative m) := by
  -- A literal is read by its magnitude, so the sign plays no part in the choice of digits.
  obtain ⟨digits, exponent, shown, some, holds, best⟩ := shortest_spec positive tie
  refine ⟨⟨negative, digits, exponent⟩, rfl, some, shown, ?_, ?_, ?_⟩
  · exact (Literal.toBinary64_eq_iff positive).mpr ⟨rfl, holds⟩
  · intro other read
    exact (best _ _ ((Literal.toBinary64_eq_iff positive).mp read).2).1
  · rintro other read same q found
    obtain ⟨rfl, also⟩ := (Literal.toBinary64_eq_iff positive).mp read
    obtain rfl := Option.some.inj found
    rw [Literal.abs_value_sub, Literal.abs_value_sub other]
    exact (best _ _ also).2 same

end TextTemplate
