import TextTemplate.Proofs.Number.Significant
import TextTemplate.Proofs.Template.Limit
import TextTemplate.Proofs.Template.Sign

/-! General notation shows a number rounded to a count of significant digits, in place or with a
power of ten as the rounded number asks for. In place, a small number may have more decimals than
the formatter counts. -/

namespace TextTemplate

open Json (Numeral SpellsNumeral)

/-- A positive number is spelled in general notation: all digits that are counted, and no others
but zeros in front. One digit and a power of ten are written where the number is less than a
millionth or has more digits before its point than are counted, and otherwise the decimals that the
first digits leave. -/
structure ShowsGeneral (count : Nat) (y : ℚ) (n : Numeral) : Prop where
  spelled : SpellsNumeral n.written n
  unsigned : n.negative = false
  value : n.literal.magnitude = y
  digits : digitCount n.literal.digits = count
  powered : Int.log 10 y < -6 ∨ count ≤ Int.log 10 y →
    n.whole.length = 1 ∧ n.exponent = some (Int.log 10 y)
  placed : ¬ (Int.log 10 y < -6 ∨ count ≤ Int.log 10 y) →
    (n.decimals.length : Int) = count - 1 - Int.log 10 y ∧ n.exponent = none

variable {count n : Nat} {power : Int} {m : Magnitude}

/-- What is spelled in general notation begins with a digit. -/
theorem ShowsGeneral.leadsDigit {y : ℚ} {n : Numeral} (shows : ShowsGeneral count y n) :
    LeadsDigit n.written := by
  have leads : LeadsDigit n.whole := shows.spelled.whole.head
  rw [Numeral.written, shows.unsigned]
  exact leads.append _

/-- Digits with a power of ten show the number that is rounded to. -/
theorem RoundsTo.showsGeneral_powered {q : ℚ} (rounded : RoundsTo count q n power)
    (far : power < -6 ∨ count ≤ power) :
    ShowsGeneral count (n * 10 ^ (power + 1 - count))
      (Scientific.powered false ⟨Nat.toDigits 10 n, power⟩) := by
  -- The digits are rounded already, so that only their layout is to be seen.
  have log := rounded.log_eq
  constructor
  · exact (Scientific.isProper_powered n power false).spells
  · rfl
  · rw [Scientific.magnitude_powered, rounded.digits]
  · simp only [Scientific.powered, Numeral.literal_around, Nat.ofDigitChars_ten_toDigits]
    exact rounded.digits
  · intro _
    rw [log]
    exact ⟨Scientific.length_whole_powered Nat.toDigits_ne_nil false, rfl⟩
  · intro near
    rw [log] at near
    exact absurd far near

/-- Digits in place show the number that is rounded to. -/
theorem RoundsTo.showsGeneral_placed {q : ℚ} {decimals : Nat} (rounded : RoundsTo count q n power)
    (left : (decimals : Int) = count - 1 - power) (near : ¬ (power < -6 ∨ count ≤ power)) :
    ShowsGeneral count (n * 10 ^ (power + 1 - count)) (Numeral.decimal n decimals) := by
  -- The decimals are as many as the first digits leave of those that are counted.
  have log := rounded.log_eq
  have literal := literal_decimal n decimals
  constructor
  · exact (isProper_decimal n decimals).spells
  · rfl
  · rw [literal, Literal.magnitude, left]
    congr 2
    ring
  · rw [literal]
    exact rounded.digits
  · intro far
    rw [log] at far
    exact absurd far near
  · intro _
    rw [log, length_decimals_decimal]
    exact ⟨left, rfl⟩

/-- A number in general notation has all of its decimals counted.

In front of a power of ten, they are all digits but the first. In place, there may be others. -/
def CountsGeneral (count : Nat) (y : ℚ) : Prop :=
  count ≤ maxDecimals + 1 ∧
    (Int.log 10 y < -6 ∨ count ≤ Int.log 10 y ∨ count - 1 - Int.log 10 y ≤ maxDecimals)

instance (count : Nat) (y : ℚ) : Decidable (CountsGeneral count y) :=
  inferInstanceAs (Decidable (_ ∧ _))

/-- A positive magnitude is shown as the number that it is rounded to, which tells the decimals that
are asked for. -/
theorem exists_generalText (positive : 0 < m.significand) (precision : Nat) (negative : Bool) :
    ∃ y n, IsSignificant (max precision 1) m.ratio.value y ∧
      ShowsGeneral (max precision 1) y n ∧
      generalText precision (.finite negative m) = minusSign negative ++ n.written ∧
      ((∀ decimals ∈ generalDecimals precision m, decimals ≤ maxDecimals) ↔
        CountsGeneral (max precision 1) y) := by
  have counted : 0 < max precision 1 := lt_max_of_lt_right Nat.one_pos
  have some : 0 < m.ratio.num := (value_pos_iff _).mp (m.value_ratio_pos_iff.mpr positive)
  obtain ⟨n, power, digits, rounded⟩ := exists_significant some counted
  -- A number with a significand keeps its minus.
  have minus : (negative && decide (m.significand ≠ 0)) = negative := by
    rw [decide_eq_true positive.ne', Bool.and_true]
  simp only [generalText, generalDecimals, CountsGeneral, digits, minus,
    List.append_cancel_left_eq]
  -- The layout is chosen by the power of ten of the number that is rounded to.
  refine ⟨_, if power < -6 ∨ max precision 1 ≤ power then
    Scientific.powered false ⟨Nat.toDigits 10 n, power⟩
    else .decimal n (max precision 1 - 1 - power).toNat, rounded.significant, ?_⟩
  rw [rounded.log_eq]
  split
  · rename_i far
    refine ⟨rounded.showsGeneral_powered far, ?_, ?_⟩
    · rw [Scientific.written_powered Nat.toDigits_ne_nil]
      rfl
    · simp only [List.mem_singleton, forall_eq]
      omega
  · rename_i near
    -- The digits before the point are no more than are counted, so that no decimals are missing.
    have left : ((max precision 1 - 1 - power).toNat : Int) = max precision 1 - 1 - power := by
      omega
    have again := rounded.round_eq left
    refine ⟨rounded.showsGeneral_placed left near, ?_, ?_⟩
    · rw [← again, written_decimal]
    · simp only [List.mem_cons, List.not_mem_nil, or_false, forall_eq_or_imp, forall_eq]
      omega

variable {request : Placeholder} {value : Value} {number : Number} {precision : Nat}

/-- A finite number that is not zero is shown in general notation behind its sign, rounded on its
exact value, a tie going to the even last digit.

It is shown exactly where all of its decimals are counted, and the program ends anywhere else. -/
theorem render?_general (general : request.conversion = .general) (narrow : request.width = none)
    (precise : request.precision = some precision) (found : value.number? = some number) {q : ℚ}
    (exact : number.toBinary64.value? = some q) (nonzero : q ≠ 0) :
    ∃ y n, (∀ other, IsSignificant (max precision 1) |q| other ↔ other = y) ∧
      ShowsGeneral (max precision 1) y n ∧
      request.render? value = pure (if CountsGeneral (max precision 1) y then
        some (.ok (request.sign (0 ≤ q) ++ n.written)) else none) := by
  have numeric : request.conversion.isNumeric := by
    rw [general]
    rfl
  have requested : request.number? value = some number := by
    rw [Placeholder.number?, general]
    exact found
  -- An integer is shown with the sign that it has when it is rounded.
  have sign : number.nonnegative = decide (0 ≤ q) := by
    rw [← Number.nonnegative_toBinary64, Bool.eq_iff_iff, decide_eq_true_iff]
    exact Binary64.nonnegative_iff exact
  have rendered := render?_number numeric requested
  simp only [Placeholder.convertNumber, Placeholder.decimals, general, precise, sign] at rendered
  generalize number.toBinary64 = x at exact rendered
  cases x with
  | nan | infinite => contradiction
  | finite negative m =>
    have positive := (Binary64.significand_pos_iff exact).mpr nonzero
    obtain ⟨y, n, rounded, shows, text, counts⟩ :=
      exists_generalText positive precision negative
    have agree : negative → decide (0 ≤ q) = false ∨ request.forceSign := by
      intro minus
      rw [Binary64.negative_eq positive exact, decide_eq_true_iff] at minus
      exact .inl (decide_eq_false (not_le.mpr minus))
    simp only [text, compose_signed request shows.leadsDigit.begins.unsigned agree,
      field_narrow narrow, counts] at rendered
    rw [Binary64.abs_value exact]
    refine ⟨y, n, fun other => ⟨rounded.unique, ?_⟩, shows, rendered⟩
    -- The number that is shown is one to round to, and so the only one.
    rintro rfl
    exact rounded

/-- Where rounding carries into a power of ten, one decimal less is left behind the first digit. -/
theorem format_general_carried :
    ∃ x y n, x.value? = some (0x13FDF3B645A1CB / 2 ^ 49) ∧
      IsSignificant 3 (0x13FDF3B645A1CB / 2 ^ 49) y ∧ ShowsGeneral 3 y n ∧
      n.written = "10.0".toList ∧ format? "%.3g" [.float x] = pure (some (.ok "10.0")) := by
  -- The nearest number to 9.996.
  let m : Magnitude := ⟨0x13FDF3B645A1CB, 1025, by decide, by decide, .inr (by decide)⟩
  have below : m.shift + 49 = 1074 := rfl
  have value : m.ratio.value = 0x13FDF3B645A1CB / 2 ^ 49 := by
    rw [m.value_ratio_div below, Nat.cast_ofNat]
  have exact : (Binary64.finite false m).value? = some (0x13FDF3B645A1CB / 2 ^ 49) := by
    rw [← value]
    rfl
  let request := { Placeholder.plain .next .general with precision := some 3 }
  have written : printed [.placeholder request] = "%.3g" := by decide
  have valid : request.WellFormed := ⟨trivial, by decide, by decide, by decide, by decide⟩
  have found : (Value.float (.finite false m)).number? = some (.float (.finite false m)) := rfl
  have requested : request.number? (.float (.finite false m)) = some (.float (.finite false m)) :=
    rfl
  -- Both ways of writing ask for two decimals at most.
  have counted : ∀ count ∈ request.decimals (.float (.finite false m)), count ≤ maxDecimals := by
    decide +kernel
  have text : request.compose (request.convertNumber (.float (.finite false m))) =
      "10.0".toList := by decide +kernel
  have shown := @render?_number request _ _ rfl requested
  rw [if_pos counted, text] at shown
  have formatted := @format?_alone request _ valid rfl (some _) shown
  rw [written] at formatted
  obtain ⟨y, n, rounded, shows, rendered⟩ :=
    @render?_general request _ _ 3 rfl rfl rfl found _ exact (by norm_num)
  -- A number above zero is shown without a sign, so that all of the text is the number.
  have unsigned : request.sign (0 ≤ (0x13FDF3B645A1CB / 2 ^ 49 : ℚ)) = [] := by
    rw [decide_eq_true (by norm_num)]
    rfl
  rw [shown, unsigned, List.nil_append, Calls.pure_inj] at rendered
  split at rendered
  · rw [Option.some.injEq, Except.ok.injEq] at rendered
    rw [abs_of_nonneg (by norm_num)] at rounded
    exact ⟨_, y, n, exact, (rounded y).mpr rfl, shows, rendered.symm, formatted⟩
  · exact absurd rendered (Option.some_ne_none _)

/-- A twentieth is shown in place, with one decimal more than are counted for the most digits that
a precision asks for. -/
theorem format?_general_uncounted :
    ∃ x y, x.value? = some (0x1999999999999A / 2 ^ 57) ∧
      IsSignificant 65535 (0x1999999999999A / 2 ^ 57) y ∧ Int.log 10 y = -2 ∧
      format? "%.65535g" [.float x] = pure none := by
  let m : Magnitude := ⟨0x1999999999999A, 1017, by decide, by decide, .inr (by decide)⟩
  have below : m.shift + 57 = 1074 := rfl
  have value : m.ratio.value = 0x1999999999999A / 2 ^ 57 := by
    rw [m.value_ratio_div below, Nat.cast_ofNat]
  have exact : (Binary64.finite false m).value? = some (0x1999999999999A / 2 ^ 57) := by
    rw [← value]
    rfl
  have log : (m.ratio.significant 65535).exponent = -2 := by decide +kernel
  let request := { Placeholder.plain .next .general with precision := some 65535 }
  have written : printed [.placeholder request] = "%.65535g" := by decide +kernel
  have valid : request.WellFormed := ⟨trivial, by decide, by decide, by decide, by decide⟩
  have requested : request.number? (.float (.finite false m)) = some (.float (.finite false m)) :=
    rfl
  -- Two places are taken by the zeros of a twentieth, and one digit stands at the second of them.
  have uncounted : ¬∀ count ∈ request.decimals (.float (.finite false m)), count ≤ maxDecimals := by
    decide +kernel
  have stopped := @render?_number request _ _ rfl requested
  rw [if_neg uncounted] at stopped
  have formatted := @format?_alone request _ valid rfl none stopped
  rw [written] at formatted
  -- The power of ten of the number that is shown is the one that the digits come with.
  have positive : 0 < m.ratio.num := by decide +kernel
  obtain ⟨n, power, digits, rounded⟩ := exists_significant positive (by decide : 0 < 65535)
  rw [digits] at log
  subst log
  rw [value] at rounded
  exact ⟨_, _, exact, rounded.significant, rounded.log_eq, formatted⟩

end TextTemplate
