import TextTemplate.Number.Reader
import TextTemplate.Proofs.Json.Unambiguous
import TextTemplate.Value.Basic

/-! An integer of 64 bits is recognised in text, whatever sign and zeros it is written with. -/

namespace TextTemplate

variable {cs : List Char} {n : Int64}

/-- Digits with a sign are an integer where 64 bits hold it. -/
theorem ofText?_spelled (spelled : Json.SpellsInteger cs n.toInt) :
    Number.ofText? cs = some (.int n) := by
  -- The whole text is read as an integer, which 64 bits hold.
  simp only [Number.ofText?, spelled.read, Option.filter_some, if_pos (fitsInt64_toInt n),
    Int64.ofInt_toInt]

/-- Digits with a sign are leading digits with nothing behind them. -/
theorem ofLeadingDigits_spelled (spelled : Json.SpellsInteger cs n.toInt) :
    Number.ofLeadingDigits cs = .int n := by
  obtain ⟨negative, digits, sign, each, value⟩ := spelled.sign
  have all : digits.takeWhile Char.isDigit = digits := List.takeWhile_eq_self_iff.mpr each.digits
  simp only [Number.ofLeadingDigits, sign, all, if_neg each.nonempty]
  -- The integer is the one that was written, which needs no rounding.
  rw [← value, Number.ofInt, if_pos (fitsInt64_toInt n), Int64.ofInt_toInt]

/-- A text of digits with a sign between white space is an integer to every conversion. -/
theorem Value.number?_spelled {text : List Char}
    (spelled : Json.SpellsInteger (trim text) n.toInt) :
    (Value.text (.ofList text)).number? = some (.int n) ∧
      (Value.text (.ofList text)).integer? = some (.int n) := by
  -- Both readers find the integer behind the white space.
  have read := ofText?_spelled spelled
  have leading := ofLeadingDigits_spelled spelled
  simp only [Value.integer?, Value.number?, String.toList_ofList, read, leading, Option.map_some,
    and_self]

end TextTemplate
