import TextTemplate.Proofs.Number.Fixed
import TextTemplate.Proofs.Template.Sign

/-! Without a precision, an integer is shown in fixed notation as in base ten. With a precision, it
is rounded to double precision before, so that only integers of no more than 53 bits before their
zeros are shown as they are. -/

namespace TextTemplate

/-- An integer in base ten behind its sign. -/
def Placeholder.decimalText (request : Placeholder) (n : Int) : List Char :=
  request.sign (0 ≤ n) ++ Nat.toDigits 10 n.natAbs

variable {request : Placeholder}

/-- Integers of the same sign are told apart by their text. -/
theorem decimalText_inj {n other : Int} (sign : n < 0 ↔ other < 0) :
    request.decimalText n = request.decimalText other ↔ n = other := by
  -- Behind the same sign, the digits tell the absolute value.
  refine ⟨fun same => ?_, congrArg request.decimalText⟩
  have signs : decide (0 ≤ n) = decide (0 ≤ other) := decide_eq_decide.mpr (by omega)
  unfold Placeholder.decimalText at same
  rw [signs, List.append_cancel_left_eq] at same
  have magnitude := toDigits_inj.mp same
  omega

/-- Without a width, an integer is shown in base ten behind its sign. -/
theorem render_decimal_int (decimal : request.conversion = .decimal)
    (narrow : request.width = none) (n : Int64) :
    request.render (.int n) = pure (.ok (request.decimalText n.toInt)) := by
  -- An integer is whole as it stands, and there is no field to fill up.
  have found : (Value.int n).integer? = some (.int n) := rfl
  have whole : (Number.int n).truncate? = some n.toInt := rfl
  rw [render_decimal decimal found whole, field_narrow narrow]
  rfl

/-- Without a width, an integer that is converted in fixed notation is shown behind its sign. -/
theorem render_fixed_signed (fixed : request.conversion = .fixed) (narrow : request.width = none)
    {n : Int64} {body : List Char} (leads : LeadsDigit body)
    (converted : request.convertNumber (.int n) =
      .signed (minusSign (n.toInt < 0) ++ body) (Number.int n).nonnegative) :
    request.render (.int n) = pure (.ok (request.sign (0 ≤ n.toInt) ++ body)) := by
  -- What is converted begins with a digit, so the sign of the integer takes the place of the one
  -- before it.
  have numeric : request.conversion.isNumeric := by
    rw [fixed]
    rfl
  have found : (Value.int n).number? = some (.int n) := rfl
  have agree : decide (n.toInt < 0) → (Number.int n).nonnegative = false ∨ request.forceSign := by
    intro negative
    rw [Number.nonnegative_int, negative]
    exact .inl rfl
  rw [render_standing numeric found rfl, converted,
    compose_signed request leads.begins.unsigned agree, field_narrow narrow]
  rfl

/-- Without a precision, an integer is shown in fixed notation as in base ten. -/
theorem render_fixed_int (fixed : request.conversion = .fixed) (narrow : request.width = none)
    (shortest : request.precision = none) (n : Int64) :
    request.render (.int n) = pure (.ok (request.decimalText n.toInt)) := by
  -- The shortest text of an integer is its digits behind a minus, if it has one.
  refine render_fixed_signed fixed narrow (leadsDigit_toDigits _) ?_
  simp only [Placeholder.convertNumber, fixed, shortest, Number.text, repr_toList]

/-- With a precision, an integer is shown in fixed notation as the floating point number nearest to
it, with zeros for decimals. -/
theorem render_fixed_nearest (fixed : request.conversion = .fixed) (narrow : request.width = none)
    {decimals : Nat} (precise : request.precision = some decimals) {n : Int64} {nearest : Int}
    (whole : (Binary64.ofInt n.toInt).IsInteger nearest) (sign : nearest < 0 ↔ n.toInt < 0) :
    request.render (.int n) = pure (.ok (request.decimalText nearest ++
      Json.fraction (List.replicate decimals '0'))) := by
  -- The nearest number has the sign of the integer, so it is shown behind the same sign.
  have leads := (leadsDigit_toDigits nearest.natAbs).append
    (Json.fraction (List.replicate decimals '0'))
  have nonnegative : decide (0 ≤ nearest) = decide (0 ≤ n.toInt) :=
    decide_eq_decide.mpr (by omega)
  rw [Placeholder.decimalText, nonnegative, List.append_assoc]
  refine render_fixed_signed fixed narrow leads ?_
  simp only [Placeholder.convertNumber, fixed, precise, Number.toBinary64, whole.fixedText_eq, sign]

/-- Without a width, base ten and fixed notation show an integer alike, and a precision puts zeros
behind it just where the integer has no more than 53 bits before its zeros. Otherwise the zeros
stand behind another integer, which is the floating point number nearest to it. -/
theorem render_fixed_integer_iff (narrow : request.width = none) (n : Int64) :
    ∃ text,
      { request with conversion := .decimal }.render (.int n) = pure (.ok text) ∧
      { request with conversion := .fixed, precision := none }.render (.int n) =
        pure (.ok text) ∧
      ∃ nearest : Int, (Binary64.ofInt n.toInt).value? = some (nearest : ℚ) ∧
        ∀ decimals, ∃ shown,
          { request with conversion := .fixed, precision := some decimals }.render (.int n) =
            pure (.ok shown) ∧
          shown = request.decimalText nearest ++ Json.fraction (List.replicate decimals '0') ∧
          (shown = text ++ Json.fraction (List.replicate decimals '0') ↔
            Representable n.toInt.natAbs) := by
  -- An integer is rounded to a whole number, which is the integer itself just where 53 bits hold
  -- it.
  obtain ⟨nearest, whole, sign, same⟩ := Binary64.exists_nearest n
  let decimal := { request with conversion := .decimal }
  let shortest := { request with conversion := .fixed, precision := none }
  let precise (decimals : Nat) := { request with conversion := .fixed, precision := some decimals }
  refine ⟨_, render_decimal_int rfl (show decimal.width = none from narrow) n,
    render_fixed_int rfl (show shortest.width = none from narrow) rfl n, nearest,
    whole.value?_eq, fun decimals => ?_⟩
  refine ⟨_, render_fixed_nearest rfl (show (precise decimals).width = none from narrow) rfl whole
    sign, rfl, ?_⟩
  -- The zeros agree in any case, so that the texts do where the integers in front do.
  rw [List.append_cancel_right_eq, ← same]
  exact decimalText_inj sign

/-- The least integer of 64 bits has one bit before its zeros, so that a precision only puts zeros
behind the point. -/
theorem render_fixed_integer_iff_least :
    ∃ request : Placeholder, request.width = none ∧ ∃ text,
      { request with conversion := .decimal }.render (.int Int64.minValue) = pure (.ok text) ∧
      { request with conversion := .fixed, precision := some 2 }.render (.int Int64.minValue) =
        pure (.ok (text ++ ".00".toList)) := by
  let request := Placeholder.plain .next .fixed
  have narrow : request.width = none := rfl
  have digits : Int64.minValue.toInt.natAbs = 1 * 2 ^ 63 := by decide
  -- One bit before 63 zeros is representable.
  obtain ⟨text, decimal, -, _, -, precise⟩ := render_fixed_integer_iff narrow Int64.minValue
  obtain ⟨_, rendered, -, same⟩ := precise 2
  rw [same.mpr ⟨1, 63, by decide, digits⟩] at rendered
  exact ⟨request, narrow, text, decimal, rendered⟩

/-- An integer of 54 bits is shown in full without a precision, and rounded with one. -/
theorem format_fixed_rounded :
    format "%f" [.int 9007199254740993] = pure (.ok "9007199254740993") ∧
      format "%.0f" [.int 9007199254740993] = pure (.ok "9007199254740992") := by
  -- Both placeholders find the integer, and differ in the precision alone.
  have numeric : Conversion.fixed.isNumeric := rfl
  have found (request : Placeholder) :
      request.number? (.int 9007199254740993) = some (.int 9007199254740993) := by
    unfold Placeholder.number?
    split <;> rfl
  constructor
  · let request := Placeholder.plain .next .fixed
    have written : printed [.placeholder request] = "%f" := by decide
    have valid : request.WellFormed := Placeholder.plain_wellFormed .next _ trivial
    have formatted := format_placeholder valid rfl (render_number numeric (found request))
    have text : String.ofList (request.compose (request.convertNumber (.int 9007199254740993))) =
        "9007199254740993" := by decide +kernel
    rwa [written, text] at formatted
  · let request := { Placeholder.plain .next .fixed with precision := some 0 }
    have written : printed [.placeholder request] = "%.0f" := by decide
    have valid : request.WellFormed := ⟨trivial, nofun, nofun, nofun, by decide⟩
    have formatted := format_placeholder valid rfl (render_number numeric (found request))
    have text : String.ofList (request.compose (request.convertNumber (.int 9007199254740993))) =
        "9007199254740992" := by decide +kernel
    rwa [written, text] at formatted

end TextTemplate
