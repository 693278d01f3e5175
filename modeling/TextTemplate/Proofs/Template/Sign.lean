import TextTemplate.Proofs.Number.Sign
import TextTemplate.Proofs.Template.Field

/-! A floating point conversion shows a minus of negative numbers and a plus of others where one is
asked for, except that a zero with a minus keeps it in front of a power of ten. -/

namespace TextTemplate

/-- The conversions that show numbers with decimals or powers of ten. -/
def Conversion.IsFloat (conversion : Conversion) : Prop :=
  conversion = .exponential ∨ conversion = .fixed ∨ conversion = .general

/-- Whether the minus of a zero is shown, which is so with a power of ten unless a plus takes its
place. -/
def Placeholder.KeepsMinus (request : Placeholder) (number : Number) : Prop :=
  request.conversion = .exponential ∧ number = .negativeZero ∧ request.forceSign = false

variable {request : Placeholder} {value : Value} {number : Number}

/-- A number without a sign has no sign to take off. -/
theorem BeginsNumber.unsigned {body : List Char} (begins : BeginsNumber body) :
    unsignedBody body = body := by
  -- Neither a digit nor the name of infinity is a sign.
  obtain ⟨c, rest, rfl, digit | rfl⟩ := begins
  · exact unsignedBody_of_isDigit digit rest
  · rfl

/-- A conversion that shows decimals is numeric and takes all of a number. -/
theorem Conversion.IsFloat.numeric {conversion : Conversion} (float : conversion.IsFloat) :
    conversion.isNumeric ∧ conversion.isInteger = false := by
  rcases float with rfl | rfl | rfl <;> exact ⟨rfl, rfl⟩

/-- A number is converted to a text that shows its sign, and with a power of ten the minus of a
zero. -/
theorem convertNumber_float (float : request.conversion.IsFloat) (real : number ≠ .float .nan) :
    ∃ text, request.convertNumber number = .signed text number.nonnegative ∧
      ShowsSign (!number.nonnegative ||
        (request.conversion = .exponential ∧ number = .negativeZero : Bool)) text := by
  have rounded := Number.toBinary64_ne_nan real
  unfold Placeholder.convertNumber
  -- Each notation is written of the nearest floating point number, or of the number as it is.
  rcases float with exponential | fixed | general
  · have shows := showsSign_exponentialText rounded request.precision
    rw [Number.nonnegative_toBinary64] at shows
    simp only [Number.toBinary64_eq_negativeZero_iff] at shows
    simp only [exponential, true_and]
    exact ⟨_, rfl, shows⟩
  -- Without a precision the shortest text of the number is shown.
  · simp only [fixed, reduceCtorEq, false_and, decide_false, Bool.or_false]
    cases request.precision with
    | none => exact ⟨_, rfl, Number.showsSign_text real⟩
    | some decimals =>
      have shows := showsSign_fixedText rounded decimals
      rw [Number.nonnegative_toBinary64] at shows
      exact ⟨_, rfl, shows⟩
  · simp only [general, reduceCtorEq, false_and, decide_false, Bool.or_false]
    cases request.precision with
    | none => exact ⟨_, rfl, Number.showsSign_text real⟩
    | some precision =>
      have shows := showsSign_generalText rounded precision
      rw [Number.nonnegative_toBinary64] at shows
      exact ⟨_, rfl, shows⟩

/-- The sign of a number is a minus just where the number is below zero. -/
theorem sign_eq_minus_iff (request : Placeholder) (nonnegative : Bool) :
    request.sign nonnegative = ['-'] ↔ nonnegative = false := by
  -- There are four cases, of a sign and of a plus that is asked for.
  unfold Placeholder.sign
  cases nonnegative <;> cases request.forceSign <;> decide

/-- The sign of a number is a plus just where one is asked for and the number is not below zero. -/
theorem sign_eq_plus_iff (request : Placeholder) (nonnegative : Bool) :
    request.sign nonnegative = ['+'] ↔ ¬ nonnegative = false ∧ request.forceSign := by
  unfold Placeholder.sign
  cases nonnegative <;> cases request.forceSign <;> decide

/-- The sign of a number is a minus or a plus or missing. -/
theorem sign_mem (request : Placeholder) (nonnegative : Bool) :
    request.sign nonnegative ∈ [[], ['-'], ['+']] := by
  unfold Placeholder.sign
  cases nonnegative <;> cases request.forceSign <;> decide

/-- A minus that a zero keeps is part of its text, and any other sign stands in front of it. -/
theorem render_float (float : request.conversion.IsFloat) (narrow : request.width = none)
    (found : value.number? = some number) (real : number ≠ .float .nan) :
    ∃ sign body, request.render value = pure (.ok (sign ++ body)) ∧ BeginsNumber body ∧
      (request.KeepsMinus number → sign = ['-']) ∧
      (¬ request.KeepsMinus number → sign = request.sign number.nonnegative) := by
  obtain ⟨numeric, all⟩ := float.numeric
  have requested : request.number? value = some number := by
    rw [Placeholder.number?, all]
    exact found
  obtain ⟨text, converted, body, rfl, begins⟩ := convertNumber_float float real
  have rendered := render_number numeric requested
  rw [converted] at rendered
  by_cases keeps : request.KeepsMinus number
  · obtain ⟨exponential, rfl, unforced⟩ := keeps
    refine ⟨['-'], body, ?_, begins, fun _ => rfl, fun other => absurd ⟨exponential, rfl, unforced⟩
      other⟩
    -- The zero counts as nonnegative, so that its text is shown as it is.
    have nonnegative : Number.negativeZero.nonnegative = true := rfl
    rw [rendered, nonnegative, Placeholder.compose, unforced, field_narrow narrow]
    simp [exponential, minusSign]
  · have agree : (!number.nonnegative || (request.conversion = .exponential ∧
        number = .negativeZero : Bool)) → number.nonnegative = false ∨ request.forceSign := by
      -- A minus in the text belongs to a negative number, or else a plus takes its place.
      intro shown
      rw [Bool.or_eq_true, Bool.not_eq_true', decide_eq_true_iff] at shown
      refine shown.imp_right fun special => ?_
      exact Decidable.byContradiction fun unforced =>
        keeps ⟨special.1, special.2, Bool.eq_false_iff.mpr unforced⟩
    rw [compose_signed request begins.unsigned agree, field_narrow narrow] at rendered
    exact ⟨_, body, rendered, begins, fun other => absurd other keeps, fun _ => rfl⟩

/-- Without a width, a number is shown behind a minus when it is below zero or a zero that keeps its
minus, behind a plus when one is asked for and it is not below zero, and else without a sign. -/
theorem render_float_sign (float : request.conversion.IsFloat) (narrow : request.width = none)
    (found : value.number? = some number) (real : number ≠ .float .nan) :
    ∃ sign c rest, request.render value = pure (.ok (sign ++ c :: rest)) ∧
      (c.isDigit ∨ c = 'I') ∧ sign ∈ [[], ['-'], ['+']] ∧
      (sign = ['-'] ↔ number.IsNegative ∨ request.KeepsMinus number) ∧
      (sign = ['+'] ↔ ¬ number.IsNegative ∧ request.forceSign) := by
  obtain ⟨sign, _, rendered, ⟨c, rest, rfl, begins⟩, kept, other⟩ :=
    render_float float narrow found real
  refine ⟨sign, c, rest, rendered, begins, ?_⟩
  -- Where a zero keeps its minus no plus is asked for, and the zero is not below zero.
  by_cases keeps : request.KeepsMinus number
  · rw [kept keeps]
    simp [keeps, keeps.2.2]
  · rw [other keeps, Number.isNegative_iff real, sign_eq_minus_iff, sign_eq_plus_iff,
      or_iff_left keeps]
    exact ⟨sign_mem request _, Iff.rfl, Iff.rfl⟩

/-- A plus stands in front of a zero with a minus. -/
theorem render_float_sign_zero :
    ∃ request : Placeholder, request.conversion = .exponential ∧ request.forceSign ∧
      ∃ c rest, request.render (.float (.finite true .zero)) = pure (.ok ('+' :: c :: rest)) ∧
        (c.isDigit ∨ c = 'I') := by
  let request : Placeholder := { Placeholder.plain .next .exponential with forceSign := true }
  have float : request.conversion.IsFloat := .inl rfl
  have found : (Value.float (.finite true .zero)).number? = some .negativeZero := rfl
  have real : Number.negativeZero ≠ .float .nan := nofun
  -- Zero is not below zero, although its sign bit is set.
  have positive : ¬ Number.negativeZero.IsNegative := by
    rw [Number.isNegative_iff real]
    decide
  have narrow : request.width = none := rfl
  obtain ⟨sign, c, rest, rendered, begins, -, -, plus⟩ :=
    render_float_sign float narrow found real
  rw [plus.mpr ⟨positive, rfl⟩] at rendered
  exact ⟨request, rfl, rfl, c, rest, rendered, begins⟩

/-- With a power of ten, a zero is shown with the minus that it has, although it is not below
zero. -/
theorem format_negative_zero :
    (Value.float (.finite true .zero)).number? = some .negativeZero ∧
      ¬ Number.negativeZero.IsNegative ∧
      format "%e" [.float (.finite true .zero)] = pure (.ok "-0e+0") := by
  have real : Number.negativeZero ≠ .float .nan := nofun
  let request := Placeholder.plain .next .exponential
  have written : printed [.placeholder request] = "%e" := by decide
  have valid : request.WellFormed := Placeholder.plain_wellFormed .next _ trivial
  have numeric : request.conversion.isNumeric := rfl
  have found : request.number? (.float (.finite true .zero)) = some .negativeZero := rfl
  have formatted := format_placeholder valid rfl (render_number numeric found)
  -- The mantissa is written with its minus.
  have text : String.ofList (request.compose (request.convertNumber .negativeZero)) = "-0e+0" := by
    decide
  rw [written, text] at formatted
  refine ⟨rfl, ?_, formatted⟩
  rw [Number.isNegative_iff real]
  decide

end TextTemplate
