import TextTemplate.Proofs.Template.Field

/-! The integer part of a number is shown digit by digit where 64 bits hold it, and beyond them as
the nearest integer that they hold. -/

namespace TextTemplate

variable {request : Placeholder} {value : Value} {number : Number} {alphabet : List Char} {q : ℚ}

/-- The sign in front of an integer part: in base ten that of the number, and else its own. -/
def Placeholder.integerSign (request : Placeholder) (q : ℚ) : List Char :=
  if request.conversion = .decimal then request.sign (0 ≤ q) else minusSign (towardZero q < 0)

/-- Without a width, a conversion shows an integer part as the nearest integer of 64 bits. -/
theorem render_saturated (shown : request.conversion.alphabet? = some alphabet)
    (narrow : request.width = none) (found : value.integer? = some number)
    (exact : number.value? = some q) :
    ∃ digits, request.render value = pure (.ok (request.integerSign q ++ digits)) ∧
      ShowsNatural alphabet digits (saturated (towardZero q)).natAbs := by
  have whole := Number.truncate?_saturated exact
  refine ⟨_, ?_, (isAlphabet_of_alphabet? shown).showsNatural _⟩
  unfold Placeholder.integerSign
  split
  · rename_i decimal
    -- In base ten the alphabet has the usual digits, which are left as they are.
    have letters : alphabet.length = 10 ∧ request.conversion.letter = id := by
      rw [decimal] at shown ⊢
      cases shown
      exact ⟨rfl, rfl⟩
    have sign : number.nonnegative = decide (0 ≤ q) := by
      rw [Bool.eq_iff_iff, decide_eq_true_iff]
      exact Number.nonnegative_iff exact
    rw [render_decimal decimal found whole, field_narrow narrow, sign, letters.1, letters.2,
      List.map_id]
  · rename_i other
    -- In other bases the sign is part of the text, and cutting an integer leaves its sign.
    rw [render_radix shown other found whole, field_narrow narrow, List.nil_append]
    simp only [saturated_neg_iff]

/-- Without a width, an integer part is shown without a sign as the 32 last bits of the nearest
integer of 64 bits. -/
theorem render_unsigned (unsigned : request.conversion = .unsigned) (narrow : request.width = none)
    (found : value.integer? = some number) (exact : number.value? = some q) :
    ∃ digits, request.render value = pure (.ok digits) ∧
      ShowsNatural "0123456789".toList digits
        (saturated (towardZero q) % 0x100000000).toNat := by
  have integer : request.conversion.isInteger := by
    rw [unsigned]
    rfl
  have converted : request.convertNumber number = .plain (unsignedText number) := by
    simp only [Placeholder.convertNumber, unsigned]
  -- The last 32 bits are never negative, so that they are digits alone.
  have digits := isAlphabet_decimal.showsNatural (saturated (towardZero q) % 0x100000000).toNat
  rw [List.map_id] at digits
  refine ⟨_, ?_, digits⟩
  rw [render_integer integer found, converted, Placeholder.compose, field_narrow narrow,
    List.nil_append, unsignedText, Number.truncate?_saturated exact, Option.getD_some]
  rfl

/-- Without a width, an integer part is shown in full just where 64 bits hold it. -/
theorem render_integer_exact_iff (narrow : request.width = none)
    (found : value.integer? = some number) (exact : number.value? = some q) :
    (∀ alphabet, request.conversion.alphabet? = some alphabet →
      ∃ digits, request.render value = pure (.ok (request.integerSign q ++ digits)) ∧
        ShowsNatural alphabet digits (saturated (towardZero q)).natAbs ∧
        (ShowsNatural alphabet digits (towardZero q).natAbs ↔ fitsInt64 (towardZero q))) ∧
    (request.conversion = .unsigned →
      ∃ digits, request.render value = pure (.ok digits) ∧
        ShowsNatural "0123456789".toList digits
          (saturated (towardZero q) % 0x100000000).toNat ∧
        (ShowsNatural "0123456789".toList digits (towardZero q % 0x100000000).toNat ↔
          fitsInt64 (towardZero q) ∨
            towardZero q < 0 ∧ towardZero q % 0x100000000 = 0)) := by
  constructor
  -- The digits stand for the saturated number, and digits stand for one number only.
  · intro alphabet shown
    obtain ⟨digits, rendered, shows⟩ := render_saturated shown narrow found exact
    refine ⟨digits, rendered, shows, ?_⟩
    rw [shows.iff_eq, natAbs_saturated_eq_iff]
  -- Beyond 64 bits the last bits of a rounded number are zeros, which only the least integer
  -- shares.
  · intro unsigned
    obtain ⟨digits, rendered, shows⟩ := render_unsigned unsigned narrow found exact
    refine ⟨digits, rendered, shows, ?_⟩
    rw [shows.iff_eq]
    exact lastBits_saturated_iff (Number.even_of_not_fits exact)

/-- The least integer of 64 bits is shown in full, although its opposite is none of them. -/
theorem render_integer_exact_iff_least :
    ∃ request : Placeholder, request.conversion = .hexLower ∧
      ∃ digits, request.render (.int Int64.minValue) = pure (.ok ('-' :: digits)) ∧
        ShowsNatural "0123456789abcdef".toList digits 9223372036854775808 := by
  let request := Placeholder.plain .next .hexLower
  have shown : request.conversion.alphabet? = some "0123456789abcdef".toList := rfl
  have exact : (Number.int Int64.minValue).value? = some (Int64.minValue.toInt : ℚ) := rfl
  have found : (Value.int Int64.minValue).integer? = some (.int Int64.minValue) := rfl
  have narrow : request.width = none := rfl
  obtain ⟨digits, rendered, -, shows⟩ := (render_integer_exact_iff narrow found exact).1 _ shown
  rw [towardZero_intCast] at shows
  -- The least integer has a minus, and its digits are those of the value itself.
  have sign : request.integerSign Int64.minValue.toInt = ['-'] := by
    rw [Placeholder.integerSign, if_neg (by decide), towardZero_intCast]
    rfl
  rw [sign] at rendered
  exact ⟨request, rfl, digits, rendered, shows.mpr (fitsInt64_toInt _)⟩

/-- The greatest integer of 64 bits without a sign is a number of the value 2 ^ 64, and other digits
are shown of it. -/
theorem format_saturated :
    ∃ number, (Value.ofInt 18446744073709551615).integer? = some number ∧
      number.value? = some 18446744073709551616 ∧
      format "%d" [.ofInt 18446744073709551615] = pure (.ok "9223372036854775807") ∧
      ¬ ShowsNatural "0123456789".toList "9223372036854775807".toList 18446744073709551616 := by
  let m : Magnitude :=
    ⟨0x10000000000000, 1086, by decide, by decide, .inr (by decide)⟩
  have rounded : Number.ofInt 18446744073709551615 = .float (.finite false m) := by
    decide +kernel
  have found : (Value.ofInt 18446744073709551615).integer? = some (.float (.finite false m)) := by
    rw [Value.ofInt, rounded]
    rfl
  -- The number is a power of two, which takes one bit of the significand.
  have exact : (Number.float (.finite false m)).value? = some 18446744073709551616 := by
    have units : m.units = 18446744073709551616 * twoPow 1074 := by decide +kernel
    have whole := Magnitude.value_eq_iff.mpr units
    rw [Nat.cast_ofNat] at whole
    exact congrArg some whole
  have whole : (Number.float (.finite false m)).truncate? = some 9223372036854775807 := by
    decide +kernel
  let request := Placeholder.plain .next .decimal
  have written : printed [.placeholder request] = "%d" := by decide
  have valid : request.WellFormed := Placeholder.plain_wellFormed .next _ trivial
  have decimal : request.conversion = .decimal := rfl
  have formatted := format_placeholder valid rfl (render_decimal decimal found whole)
  rw [written] at formatted
  have text : String.ofList (request.field
      (request.sign (Number.float (.finite false m)).nonnegative)
      (Nat.toDigits 10 (Int.natAbs 9223372036854775807))) = "9223372036854775807" := by decide
  rw [text] at formatted
  exact ⟨_, found, exact, formatted, fun shows => absurd shows.read (by decide)⟩

end TextTemplate
