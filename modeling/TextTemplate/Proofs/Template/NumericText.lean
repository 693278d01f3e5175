import TextTemplate.Proofs.Number.Recognition
import TextTemplate.Proofs.Template.Sign

/-! A text is shown by a numeric conversion just where it spells a number within the range of double
precision or infinity. Base ten shows it with the sign of its leading digits, which is mostly the
sign of its number. -/

namespace TextTemplate

variable {request : Placeholder} {value : Value} {number original : Number} {s : String} {q : ℚ}

/-- Every numeric conversion finds a number in a text where the text is numeric. -/
theorem number?_text_isSome_iff (request : Placeholder) (s : String) :
    (request.number? (.text s)).isSome ↔ IsNumeric (trim s.toList) := by
  rw [← ofText?_isSome_iff]
  unfold Placeholder.number?
  split
  · -- Leading digits are only read where the whole text is a number.
    exact iff_of_eq (congrArg (· = true) Option.isSome_map)
  · exact Iff.rfl

/-- A numeric conversion refuses a text in which it finds no number. -/
theorem render_text_refused (numeric : request.conversion.isNumeric)
    (missing : request.number? (.text s) = none) :
    request.render (.text s) = pure (.error (.notNumeric request.conversion .string)) := by
  -- The error names the conversion and the kind of the value, and nothing of the text.
  simp [Placeholder.render, Placeholder.convert, Value.resolve, numeric, missing, Except.map,
    Value.kind]

/-- A numeric conversion shows a text just where, without the white space around it, it spells a
decimal number within the range or infinity, and refuses every other text as a string. -/
theorem render_text_iff (numeric : request.conversion.isNumeric) (s : String) :
    ((∃ shown, request.render (.text s) = pure (.ok shown)) ↔ IsNumeric (trim s.toList)) ∧
      (¬ IsNumeric (trim s.toList) →
        request.render (.text s) = pure (.error (.notNumeric request.conversion .string))) := by
  rw [← number?_text_isSome_iff request s]
  -- A number is shown whatever it is, so that all depends on whether one is found.
  cases found : request.number? (.text s) with
  | some number => exact ⟨iff_of_true ⟨_, render_number numeric found⟩ rfl, nofun⟩
  | none =>
    have refused := render_text_refused numeric found
    refine ⟨iff_of_false ?_ nofun, fun _ => refused⟩
    rintro ⟨shown, rendered⟩
    exact absurd (Calls.pure_inj.mp (refused.symm.trans rendered)) nofun

/-- The least decimal numbers are shown, and other names of infinity and of what is not a number are
refused. -/
theorem render_text_iff_names :
    ∃ request : Placeholder, request.conversion = .fixed ∧
      (∃ shown, request.render (.text "\t-.5E-400 ") = pure (.ok shown)) ∧
      ∀ name ∈ ["inf", "-inf", "infinity", "INFINITY", "nan", "NaN", "+-Infinity"],
        request.render (.text name) = pure (.error (.notNumeric .fixed .string)) := by
  let request := Placeholder.plain .next .fixed
  have numeric : request.conversion.isNumeric := rfl
  refine ⟨request, rfl, (render_text_iff numeric _).1.mpr ?_, fun name member => ?_⟩
  · rw [← ofText?_isSome_iff]
    decide +kernel
  -- There are few names, and none of them is read.
  · refine (render_text_iff numeric name).2 ?_
    rw [← ofText?_isSome_iff]
    revert name
    decide

/-- A text that spells a decimal number beyond the range is refused. -/
theorem format_text_overflow :
    SpellsDecimal "1e400".toList ⟨false, 1, 400⟩ ∧
      format "%d" [.text "1e400"] =
        pure (.error (.render ⟨⟨0, 2⟩, .notNumeric .decimal .string⟩)) := by
  refine ⟨read?_eq_some_iff.mp (by decide), ?_⟩
  -- The template is a single placeholder, which refuses the text.
  let request := Placeholder.plain .next .decimal
  have written : printed [.placeholder request] = "%d" := by decide
  have valid : request.WellFormed := Placeholder.plain_wellFormed .next _ trivial
  have numeric : request.conversion.isNumeric := rfl
  have missing : request.number? (.text "1e400") = none := by decide
  have formatted := format_alone valid rfl (render_text_refused numeric missing)
  rw [written] at formatted
  exact formatted

/-- A text with a minus whose leading digits are zeros although its number is not zero, or whose
number is rounded to zero although its leading digits are not zeros. -/
def Value.HidesSign (value : Value) (number : Number) : Prop :=
  ∃ s whole rest, value = .text s ∧ trim s.toList = '-' :: (whole ++ rest) ∧
    (∀ c ∈ whole, c.isDigit) ∧ (∀ c ∈ rest.head?, c.isDigit = false) ∧
    (Nat.ofDigitChars 10 whole 0 = 0 ↔ number.value? ≠ some 0)

/-- A minus is the only sign that is read as one. -/
theorem readSign_eq_minus_iff {cs rest : List Char} :
    readSign cs = (true, rest) ↔ cs = '-' :: rest := by
  -- Every way of reading a sign but the first leaves no minus behind.
  unfold readSign
  split
  · simp
  · simp
  · rename_i other _
    exact iff_of_false nofun fun minus => other rest minus

/-- The integer that a text stands for is below zero where the text has a minus and its leading
digits are not zeros. -/
theorem isNegative_ofLeadingDigits_iff (cs : List Char)
    (real : Number.ofLeadingDigits cs ≠ .float .nan) :
    (Number.ofLeadingDigits cs).IsNegative ↔ (readSign cs).1 ∧
      Nat.ofDigitChars 10 ((readSign cs).2.takeWhile Char.isDigit) 0 ≠ 0 := by
  -- Without digits there would be no number.
  unfold Number.ofLeadingDigits at real ⊢
  simp only at real ⊢
  split at real
  · contradiction
  -- There are digits, and the integer has the sign of the text unless it is zero.
  rename_i digits
  rw [if_neg digits, Number.isNegative_ofInt_iff, signedInt_neg_iff]
  refine and_congr_right fun negative => not_congr ?_
  simp only [signedInt, negative, if_true]
  omega

/-- A text hides its sign where it has a minus and either its leading digits or its number are zero,
but not both. -/
theorem hidesSign_text_iff {s : String} :
    (Value.text s).HidesSign original ↔ (readSign (trim s.toList)).1 ∧
      (Nat.ofDigitChars 10 ((readSign (trim s.toList)).2.takeWhile Char.isDigit) 0 = 0 ↔
        original.value? ≠ some 0) := by
  constructor
  -- Digits that stop where others follow are the leading ones.
  · rintro ⟨_, whole, rest, same, split, digits, stops, zero⟩
    cases same
    rw [readSign_eq_minus_iff.mpr split, (takeWhile_dropWhile_append digits stops).1]
    exact ⟨rfl, zero⟩
  -- Conversely the leading digits are cut off from what follows them.
  · rintro ⟨minus, zero⟩
    obtain ⟨rest, read⟩ : ∃ rest, readSign (trim s.toList) = (true, rest) := ⟨_, Prod.ext minus rfl⟩
    rw [read] at zero
    have split := readSign_eq_minus_iff.mp read
    rw [← List.takeWhile_append_dropWhile (p := Char.isDigit) (l := rest)] at split
    exact ⟨s, _, _, rfl, split, fun _ => List.mem_takeWhile_imp, head?_dropWhile_stops _ rest, zero⟩

/-- The integer that a value stands for is below zero just where its number is, unless the value is
a text that hides its sign. -/
theorem isNegative_integer_iff (found : value.integer? = some number)
    (real : number ≠ .float .nan) :
    ∃ original, value.number? = some original ∧
      ((number.IsNegative ↔ original.IsNegative) ↔ ¬ value.HidesSign original) := by
  -- What is said of the sign and the two zeros is a matter of logic.
  have parts (minus zero some : Prop) :
      ((minus ∧ ¬ zero) ↔ (minus ∧ some)) ↔ ¬ (minus ∧ (zero ↔ some)) := by tauto
  by_cases isText : ∃ s, value = .text s
  · obtain ⟨s, rfl⟩ := isText
    obtain ⟨original, read, rfl⟩ := Option.map_eq_some_iff.mp found
    refine ⟨original, read, ?_⟩
    rw [isNegative_ofLeadingDigits_iff _ real, isNegative_of_ofText? read, hidesSign_text_iff]
    exact parts _ _ _
  · -- Any other value stands for one number to all conversions.
    have same : value.integer? = value.number? := by
      cases value with
      | text s => exact absurd ⟨s, rfl⟩ isText
      | _ => rfl
    refine ⟨number, same.symm.trans found, iff_of_true Iff.rfl ?_⟩
    rintro ⟨s, _, _, text, -⟩
    exact isText ⟨s, text⟩

/-- In base ten, a number is shown with the sign of the integer that it is shown as, which is the
sign of the number just where no text hides it. -/
theorem render_decimal_sign_iff (decimal : request.conversion = .decimal)
    (narrow : request.width = none) (found : value.integer? = some number)
    (exact : number.value? = some q) :
    ∃ original sign c rest, value.number? = some original ∧
      request.render value = pure (.ok (sign ++ c :: rest)) ∧ c.isDigit ∧
      (sign = ['-'] ↔ q < 0) ∧ (sign = ['+'] ↔ 0 ≤ q ∧ request.forceSign) ∧
      sign ∈ [[], ['-'], ['+']] ∧
      ((sign = ['-'] ↔ original.IsNegative) ∧
          (sign = ['+'] ↔ ¬ original.IsNegative ∧ request.forceSign) ↔
        ¬ value.HidesSign original) := by
  -- What has a value is a number.
  have real : number ≠ .float .nan := by
    rintro rfl
    cases exact
  obtain ⟨original, read, hides⟩ := isNegative_integer_iff found real
  obtain ⟨c, rest, split, digit⟩ :=
    leadsDigit_toDigits (saturated (towardZero q)).natAbs
  have rendered := render_decimal decimal found (Number.truncate?_saturated exact)
  rw [field_narrow narrow, split] at rendered
  -- The sign is that of the integer, which is told by its value.
  have minus : request.sign number.nonnegative = ['-'] ↔ q < 0 := by
    rw [sign_eq_minus_iff, ← Number.isNegative_iff real, Number.isNegative_iff_value exact]
  have plus : request.sign number.nonnegative = ['+'] ↔ 0 ≤ q ∧ request.forceSign := by
    rw [sign_eq_plus_iff, ← Number.isNegative_iff real, Number.isNegative_iff_value exact, not_lt]
  refine ⟨original, _, c, rest, read, rendered, digit, minus, plus, sign_mem request _, ?_⟩
  -- What is left is logic: the plus is shown where the minus is not and a sign is forced.
  rw [← hides, minus, plus, Number.isNegative_iff_value exact, ← not_lt]
  generalize (q < 0) = shown
  generalize original.IsNegative = whole
  constructor
  · exact And.left
  · exact fun same => ⟨same, and_congr_left' (not_congr same)⟩

/-- The integer part of a number keeps the minus of a number above minus one. -/
theorem render_decimal_sign_iff_half :
    ∃ request : Placeholder, request.conversion = .decimal ∧ request.width = none ∧
      ∃ m : Magnitude, m.ratio.value = 1 / 2 ∧ ∃ c rest,
        request.render (.float (.finite true m)) = pure (.ok ('-' :: c :: rest)) ∧ c.isDigit := by
  let request := Placeholder.plain .next .decimal
  have decimal : request.conversion = .decimal := rfl
  have narrow : request.width = none := rfl
  let m : Magnitude := ⟨0x10000000000000, 1021, by decide, by decide, .inr (by decide)⟩
  -- A half is the least full significand, shifted by one bit less than a whole.
  have half : m.ratio.value = 1 / 2 := by
    have below : m.shift + 53 = 1074 := rfl
    rw [m.value_ratio_div below, Nat.cast_ofNat]
    norm_num
  have found : (Value.float (.finite true m)).integer? = some (.float (.finite true m)) := rfl
  have exact : (Number.float (.finite true m)).value? = some (-(1 / 2)) :=
    congrArg (fun q => some (-q)) half
  obtain ⟨_, sign, c, rest, -, rendered, digit, minus, -⟩ :=
    render_decimal_sign_iff decimal narrow found exact
  rw [minus.mpr (by norm_num)] at rendered
  exact ⟨request, rfl, rfl, m, half, c, rest, rendered, digit⟩

/-- A text of a number above minus one is shown without its minus. -/
theorem format_leading_zero :
    ∃ original, (Value.text "-0.5").number? = some original ∧ original.IsNegative ∧
      format "%d" [.text "-0.5"] = pure (.ok "0") := by
  let m : Magnitude := ⟨0x10000000000000, 1021, by decide, by decide, .inr (by decide)⟩
  have read : (Value.text "-0.5").number? = some (.float (.finite true m)) := by decide +kernel
  have real : Number.float (.finite true m) ≠ .float .nan := nofun
  have negative : (Number.float (.finite true m)).IsNegative := by
    rw [Number.isNegative_iff real]
    decide
  let request := Placeholder.plain .next .decimal
  have written : printed [.placeholder request] = "%d" := by decide
  have valid : request.WellFormed := Placeholder.plain_wellFormed .next _ trivial
  have decimal : request.conversion = .decimal := rfl
  -- The leading digits alone are a zero, which has no sign.
  have found : (Value.text "-0.5").integer? = some (.int 0) := by decide +kernel
  have whole : (Number.int 0).truncate? = some 0 := rfl
  have formatted := format_placeholder valid rfl (render_decimal decimal found whole)
  have text : String.ofList (request.field (request.sign (Number.int 0).nonnegative)
      (Nat.toDigits 10 (Int.natAbs 0))) = "0" := by decide
  rw [written, text] at formatted
  exact ⟨_, read, negative, formatted⟩

end TextTemplate
