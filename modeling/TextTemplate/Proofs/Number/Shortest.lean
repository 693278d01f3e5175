import TextTemplate.Proofs.Number.Magnitude
import TextTemplate.Proofs.Number.Scientific

/-! Candidates for the fewest digits are the neighbours of a magnitude, and a whole number of up to
2 ^ 53 has no others than its own digits. -/

namespace TextTemplate.Magnitude

variable {m : Magnitude} {tie : Tie} {count : Nat}

/-- The decimals of a magnitude, possibly fewer than none, that make up a count of digits. -/
def places (m : Magnitude) (count : Nat) : Int :=
  count - 1 - m.ratio.leadingExponent

/-- A magnitude counted in the last of a count of digits. -/
def inLast (m : Magnitude) (count : Nat) : Ratio :=
  m.ratio.scaled (m.places count)

/-- Whether a number of the last digits reads back as the magnitude. -/
def reads (m : Magnitude) (count n : Nat) : Bool :=
  m.covers ((Ratio.ofNat n).scaled (-m.places count))

/-- A candidate is one of the two neighbours of the magnitude, and the nearer one where both read
back as it. -/
theorem candidate?_chosen {s : Scientific} (found : m.candidate? tie count = some s) :
    ∃ n, m.reads count n ∧ (Scientific.ofScaled n (m.places count)).trimmed = s ∧
      (n = (m.inLast count).num / (m.inLast count).den ∧
          (m.reads count (n + 1) → 2 * ((m.inLast count).num % (m.inLast count).den) ≤
            (m.inLast count).den) ∨
        n = (m.inLast count).num / (m.inLast count).den + 1 ∧
          (m.reads count (n - 1) → (m.inLast count).den ≤
            2 * ((m.inLast count).num % (m.inLast count).den))) := by
  simp only [candidate?, Option.map_eq_some_iff] at found
  obtain ⟨n, chosen, shown⟩ := found
  suffices choice : m.reads count n ∧ _ from ⟨n, choice.1, shown, choice.2⟩
  split at chosen
  · rename_i lower upper
    -- Both neighbours are read as the magnitude, and one of them is taken.
    split at chosen
    · rename_i less
      obtain rfl := Option.some.inj chosen
      exact ⟨lower, .inl ⟨rfl, fun _ => less.le⟩⟩
    · rename_i atLeast
      split at chosen
      · rename_i more
        obtain rfl := Option.some.inj chosen
        exact ⟨upper, .inr ⟨rfl, fun _ => more.le⟩⟩
      · rename_i atMost
        cases tie with
        | upward =>
          obtain rfl := Option.some.inj chosen
          exact ⟨upper, .inr ⟨rfl, fun _ => not_lt.mp atLeast⟩⟩
        | toEven =>
          obtain rfl := Option.some.inj chosen
          -- The even one is the lower or the next one.
          rcases Nat.mod_two_eq_zero_or_one
            ((m.ratio.scaled (count - 1 - m.ratio.leadingExponent)).num /
              (m.ratio.scaled (count - 1 - m.ratio.leadingExponent)).den) with even | odd
          · rw [even]
            exact ⟨lower, .inl ⟨rfl, fun _ => not_lt.mp atMost⟩⟩
          · rw [odd]
            exact ⟨upper, .inr ⟨rfl, fun _ => not_lt.mp atLeast⟩⟩
  · rename_i lower upper
    obtain rfl := Option.some.inj chosen
    exact ⟨lower, .inl ⟨rfl, fun read => absurd (read.symm.trans upper) nofun⟩⟩
  · rename_i lower upper
    obtain rfl := Option.some.inj chosen
    exact ⟨upper, .inr ⟨rfl, fun read => absurd (read.symm.trans lower) nofun⟩⟩
  · exact absurd chosen nofun

/-- There is a candidate where one of the neighbours reads back as the magnitude. -/
theorem candidate?_isSome
    (read : m.reads count ((m.inLast count).num / (m.inLast count).den) ∨
      m.reads count ((m.inLast count).num / (m.inLast count).den + 1)) :
    (m.candidate? tie count).isSome := by
  simp only [candidate?, Option.isSome_map]
  split
  · split
    · rfl
    · split
      · rfl
      · cases tie <;> rfl
  · rfl
  · rfl
  · rename_i lower upper
    rcases read with read | read
    -- The last case is that of neither neighbour.
    · exact absurd (read.symm.trans lower) nofun
    · exact absurd (read.symm.trans upper) nofun

/-- A number that has no digits behind a count of them is a candidate itself. -/
theorem candidate?_exact {n : Nat} (positive : 0 < m.significand)
    (exact : (m.inLast count).value = n) :
    m.candidate? tie count = some (Scientific.ofScaled n (m.places count)).trimmed := by
  unfold inLast places at exact
  unfold places
  have den := (m.ratio.scaled (count - 1 - m.ratio.leadingExponent)).den_pos
  have num := num_eq_mul_den exact
  -- The number itself is read as the magnitude.
  have reads : m.covers ((Ratio.ofNat n).scaled (-(count - 1 - m.ratio.leadingExponent))) = true :=
    covers_self m positive (by
      rw [value_scaled, value_ofNat, ← exact, value_scaled, zpow_neg,
        mul_inv_cancel_right₀ (zpow_ne_zero _ (by norm_num))])
  simp only [candidate?, num, Nat.mul_div_cancel _ den, Nat.mul_mod_left, reads, Nat.mul_zero, den,
    if_true]
  -- The number itself is nearer than the one above it, should that be read the same.
  cases m.covers ((Ratio.ofNat (n + 1)).scaled (-(count - 1 - m.ratio.leadingExponent))) <;> rfl

/-- Up to 2 ^ 53 the magnitudes are no further apart than two, and closer below. -/
theorem step_bounds {n : Nat} (whole : m.ratio.value = n) (small : n ≤ 2 ^ 53) :
    m.step ≤ 2 ∧ m.stepBelow < 2 ∧ (m.step = 2 → n = 2 ^ 53) := by
  -- How far magnitudes are apart depends on the shift alone.
  have stepPos := m.step_pos
  have bound : (n : ℚ) ≤ 2 ^ 53 := by exact_mod_cast small
  rw [value_ratio] at whole
  rcases Nat.eq_zero_or_pos m.shift with none | some
  · -- Without a shift the magnitudes are the closest.
    have tiny : m.step < 2 := by
      rw [step, none, pow_zero]
      exact (div_le_one_of_le₀ (one_le_pow₀ one_le_two) (by positivity)).trans_lt one_lt_two
    exact ⟨tiny.le, m.stepBelow_le.trans_lt tiny, fun two => absurd two tiny.ne⟩
  · -- With a shift they are as far apart as the significand has full bits.
    have full : (2 ^ 52 : ℚ) ≤ m.significand := by
      exact_mod_cast m.canonical.resolve_left some.ne'
    have most : m.step ≤ 2 := by
      by_contra! more
      have := mul_lt_mul' full more (by norm_num) (by positivity)
      linarith
    refine ⟨most, ?_, fun two => ?_⟩
    · unfold stepBelow
      split
      · linarith
      · rename_i inside
        refine lt_of_le_of_ne most fun two => inside ⟨?_, some⟩
        -- Two apart, only the least full significand stays in the range.
        rw [two] at whole
        have : (m.significand : ℚ) ≤ 2 ^ 52 := by linarith
        exact le_antisymm (by exact_mod_cast this) (by exact_mod_cast full)
    · rw [two] at whole
      have : (2 ^ 53 : ℚ) ≤ n := by linarith
      exact le_antisymm small (by exact_mod_cast this)

/-- Up to 2 ^ 53 no other whole number with a zero at its end is read as a whole magnitude. -/
theorem eq_of_covers {n other : Nat} {r : Ratio} (whole : m.ratio.value = n) (positive : 0 < n)
    (small : n ≤ 2 ^ 53) (covered : m.covers r) (value : r.value = other) (zero : 10 ∣ other) :
    other = n := by
  have significand := (m.significand_pos_iff whole).mpr positive
  obtain ⟨above, below, two⟩ := step_bounds whole small
  obtain ⟨lower, upper⟩ := m.covers_near significand covered
  rw [value, whole] at lower upper
  -- The two numbers are whole, so below there is no room, and above there is room for one.
  have least : n ≤ other := by
    have : (n : ℚ) < other + 1 := by linarith
    exact Nat.lt_add_one_iff.mp (by exact_mod_cast this)
  have most : other ≤ n + 1 := by
    have : (other : ℚ) ≤ n + 1 := by linarith
    exact_mod_cast this
  rcases most.eq_or_lt with next | same
  · -- Only at the end of the range is the next number half a step away, and it ends in three.
    have : n = 2 ^ 53 := by
      refine two (le_antisymm above ?_)
      rw [next] at upper
      push_cast at upper
      linarith
    omega
  · omega

/-- The leading digit of a whole magnitude is that of the whole number. -/
theorem leadingExponent_whole {n : Nat} (whole : m.ratio.value = n) (positive : 0 < n) :
    m.ratio.leadingExponent = (digitCount n : Int) - 1 := by
  -- The place of the leading digit is the whole part of the logarithm.
  have num : 0 < m.ratio.num :=
    (value_pos_iff m.ratio).mp (whole ▸ Nat.cast_pos.mpr positive)
  rw [leadingExponent_eq num, whole, Int.log_natCast, digitCount_eq positive]
  push_cast
  ring

/-- All digits of a whole magnitude are a candidate as soon as they are counted. -/
theorem candidate?_whole {n : Nat} (whole : m.ratio.value = n) (positive : 0 < n)
    (enough : digitCount n ≤ count) :
    m.candidate? tie count = some (Scientific.ofScaled n 0).trimmed := by
  obtain ⟨zeros, rfl⟩ := Nat.exists_eq_add_of_le enough
  -- The digits that are asked for beyond its own are zeros.
  have more : m.places (digitCount n + zeros) = zeros := by
    rw [places, leadingExponent_whole whole positive]
    push_cast
    ring
  have exact : (m.inLast (digitCount n + zeros)).value = ((n * tenPow zeros : Nat) : ℚ) := by
    rw [inLast, more, value_scaled, whole, zpow_natCast, Nat.cast_mul, cast_tenPow]
  rw [candidate?_exact ((m.significand_pos_iff whole).mpr positive) exact, more,
    ← Scientific.trimmed_ofScaled_mul positive zeros 0, zero_add]

/-- Up to 2 ^ 53 no candidate of a whole magnitude differs from its own digits. -/
theorem eq_of_candidate? {n : Nat} {s : Scientific} (whole : m.ratio.value = n) (positive : 0 < n)
    (small : n ≤ 2 ^ 53) (found : m.candidate? tie count = some s) :
    s = (Scientific.ofScaled n 0).trimmed := by
  -- Either all digits are there, or some are left out at the end.
  rcases le_or_gt (digitCount n) count with enough | few
  · exact Option.some.inj (found.symm.trans (candidate?_whole whole positive enough))
  · obtain ⟨front, covered, shown, -⟩ := candidate?_chosen found
    obtain ⟨zeros, digits⟩ := Nat.exists_eq_add_of_lt few
    have fewer : m.places count = -(zeros + 1 : Nat) := by
      rw [places, leadingExponent_whole whole positive, digits]
      push_cast
      ring
    rw [reads, fewer] at covered
    rw [fewer] at shown
    -- The digits that are left out are zeros.
    have filled : front * tenPow (zeros + 1) = n := by
      refine eq_of_covers whole positive small covered ?_
        (dvd_mul_of_dvd_right (dvd_pow_self 10 zeros.succ_ne_zero) front)
      rw [value_scaled, value_ofNat, neg_neg, zpow_natCast, Nat.cast_mul, cast_tenPow]
    have some : 0 < front := Nat.pos_of_mul_pos_right (filled ▸ positive)
    rw [← shown, ← filled, ← Scientific.trimmed_ofScaled_mul some (zeros + 1), neg_add_cancel]

/-- Numbers of up to 2 ^ 53 have no more digits than are tried. -/
theorem digitCount_le_seventeen {n : Nat} (small : n ≤ 2 ^ 53) : digitCount n ≤ 17 :=
  -- The bound has sixteen digits.
  (Nat.length_toDigits_le_iff (by decide) (by decide)).mpr (small.trans_lt (by decide))

/-- The fewest digits of a whole number of up to 2 ^ 53 are its own without the zeros behind. -/
theorem shortest_whole {n : Nat} (tie : Tie) (whole : m.ratio.value = n) (positive : 0 < n)
    (small : n ≤ 2 ^ 53) : m.shortest tie = (Scientific.ofScaled n 0).trimmed := by
  unfold shortest
  -- Whichever count of digits is the first to have a candidate, it is always the same one.
  cases found : (List.range' 1 17).findSome? (m.candidate? tie) with
  | none =>
    have none := List.findSome?_eq_none_iff.mp found 17 (by decide)
    rw [candidate?_whole whole positive (digitCount_le_seventeen small)] at none
    exact absurd none nofun
  | some s =>
    obtain ⟨count, -, candidate⟩ := List.exists_of_findSome?_eq_some found
    exact eq_of_candidate? whole positive small candidate

end TextTemplate.Magnitude
