import TextTemplate.Proofs.Number.Reader
import TextTemplate.Proofs.Template.Field

/-! An integer in its field is read back, in base ten with any sign and zeros, and in other bases
unless zeros stand in front of a minus. -/

namespace TextTemplate

variable {request : Placeholder} {alphabet : List Char}

/-- In a base other than ten, an integer in its field is its digits behind its minus and behind
zeros, and is read back unless there are both. -/
theorem render_radix_reads_back_iff (shown : request.conversion.alphabet? = some alphabet)
    (other : request.conversion ≠ .decimal) (fills : request.FillsNumber) (n : Int64) :
    ∃ text digits, request.render (.int n) = pure (.ok text) ∧
      ShowsNatural alphabet digits n.toInt.natAbs ∧
      trim text = List.replicate (request.zeros ((minusSign (n.toInt < 0)).length + digits.length))
        '0' ++ (minusSign (n.toInt < 0) ++ digits) ∧
      (readSigned? alphabet (trim text) = some n.toInt ↔
        0 ≤ n.toInt ∨ request.pad = none ∨ request.width.getD 0 ≤ digits.length + 1) := by
  have valid := isAlphabet_of_alphabet? shown
  have whole : (Number.int n).truncate? = some n.toInt := rfl
  have found : (Value.int n).integer? = some (.int n) := rfl
  have rendered := render_radix shown other found whole
  have visible := visible_of_mem_digits shown n.toInt
  have digits := valid.showsNatural n.toInt.natAbs
  have read := fun zeros => valid.readSigned?_toDigits zeros n.toInt
  -- From here on the digits are known only by what they show.
  generalize (Nat.toDigits alphabet.length n.toInt.natAbs).map request.conversion.letter = spelled
    at rendered visible digits read
  refine ⟨_, spelled, rendered, digits, ?_⟩
  have nonempty : minusSign (n.toInt < 0) ++ spelled ≠ [] := by
    rintro nothing
    obtain ⟨-, rfl⟩ := List.append_eq_nil_iff.mp nothing
    exact absurd digits.read (by simp [readNatural?])
  -- Neither the minus nor a digit is white space, so only the spaces are taken off.
  have trimmed := trim_field_unsigned fills visible nonempty
  rw [List.length_append] at trimmed
  refine ⟨trimmed, ?_⟩
  rw [trimmed, read, ite_eq_right_iff]
  -- There are zeros exactly where the width is more than the length of minus and digits.
  unfold Placeholder.zeros minusSign
  by_cases negative : n.toInt < 0
  · by_cases free : request.pad = none
    · simp [free]
    · -- The minus takes one place of the width, and zeros take what is left.
      simp only [negative, free, if_true, if_false, decide_true, List.length_cons,
        List.length_nil, true_and, reduceCtorEq, imp_false, false_or]
      omega
  · simp [negative, not_lt.mp negative]

/-- In base 16, 255 is read back from among zeros. -/
theorem render_radix_reads_back_iff_capitals :
    ∃ request : Placeholder, request.conversion = .hexUpper ∧
      request.pad = some (.character '0') ∧ request.width = some 6 ∧
      ∃ text, request.render (.int 255) = pure (.ok text) ∧
        readSigned? "0123456789ABCDEF".toList (trim text) = some 255 := by
  let request : Placeholder :=
    { Placeholder.plain .next .hexUpper with pad := some (.character '0'), width := some 6 }
  have shown : request.conversion.alphabet? = some "0123456789ABCDEF".toList := rfl
  have fills : request.FillsNumber := .inr ⟨.inr rfl, rfl⟩
  obtain ⟨text, digits, rendered, -, -, read⟩ :=
    render_radix_reads_back_iff shown (by decide) fills 255
  exact ⟨request, rfl, rfl, rfl, text, rendered, read.mpr (.inl (by decide))⟩

/-- In base two, minus five is not read back from behind zeros. -/
theorem format_radix_negative :
    format "%08b" [.int (-5)] = pure (.ok "0000-101") ∧
      readSigned? "01".toList (trim "0000-101".toList) ≠ some (-5) := by
  let request : Placeholder :=
    { Placeholder.plain .next .binary with pad := some .zero, width := some 8 }
  have written : printed [.placeholder request] = "%08b" := by decide
  have valid : request.WellFormed := ⟨trivial, nofun, by decide, nofun, by decide⟩
  have shown : request.conversion.alphabet? = some "01".toList := rfl
  have whole : (Number.int (-5)).truncate? = some (-5) := rfl
  have found : (Value.int (-5)).integer? = some (.int (-5)) := rfl
  have formatted := format_placeholder valid rfl (render_radix shown (by decide) found whole)
  have text : String.ofList (request.field [] (minusSign ((-5 : Int) < 0) ++
      (Nat.toDigits 2 (Int.natAbs (-5))).map request.conversion.letter)) = "0000-101" := by decide
  rw [written] at formatted
  exact ⟨formatted.trans (congrArg (pure ∘ Except.ok) text), by decide⟩

/-- Digits behind zeros and a sign are an integer. -/
theorem spellsInteger_sign (request : Placeholder) (zeros : Nat) (n : Int) :
    Json.SpellsInteger (request.sign (0 ≤ n) ++
      (List.replicate zeros '0' ++ Nat.toDigits 10 n.natAbs)) n := by
  have filled : Json.IsDigits (List.replicate zeros '0' ++ Nat.toDigits 10 n.natAbs) := by
    have digits := Json.isDigits_toDigits n.natAbs
    exact ⟨List.append_ne_nil_of_right_ne_nil _ digits.nonempty,
      List.forall_mem_append.mpr ⟨Json.isDigit_of_mem_replicate, digits.digits⟩⟩
  -- The zeros do not count.
  have value : Nat.ofDigitChars 10 (List.replicate zeros '0' ++ Nat.toDigits 10 n.natAbs) 0 =
      n.natAbs := by
    rw [Nat.ofDigitChars_append, Nat.ofDigitChars_replicate_zero, Nat.mul_zero,
      Nat.ofDigitChars_ten_toDigits]
  -- The sign is one of the three that a spelling may have.
  unfold Placeholder.sign
  by_cases nonnegative : 0 ≤ n
  · rw [decide_eq_true nonnegative, if_pos rfl]
    split
    · have spelled := Json.SpellsInteger.plus filled
      rwa [value, Int.natAbs_of_nonneg nonnegative] at spelled
    · have spelled := Json.SpellsInteger.unsigned filled
      rwa [value, Int.natAbs_of_nonneg nonnegative] at spelled
  · rw [decide_eq_false nonnegative, if_neg Bool.false_ne_true]
    have spelled := Json.SpellsInteger.minus filled
    rwa [value, show -(n.natAbs : Int) = n by omega] at spelled

/-- The sign of a number and its digits are no white space. -/
theorem visible_of_mem_sign (request : Placeholder) (nonnegative : Bool) (n : Nat) :
    ∀ c ∈ request.sign nonnegative ++ Nat.toDigits 10 n, isBlank c = false := by
  refine List.forall_mem_append.mpr ⟨?_, ?_⟩
  -- The sign is a plus, a minus or nothing.
  · apply visible_of_not_any
    unfold Placeholder.sign
    cases nonnegative <;> cases request.forceSign <;> decide
  · intro c member
    exact isBlank_of_isDigit ((Json.isDigits_toDigits n).digits c member)

/-- In base ten, an integer in its field is spelled with a sign and zeros. -/
theorem render_decimal_spells (decimal : request.conversion = .decimal)
    (fills : request.FillsNumber) (n : Int64) :
    ∃ text, request.render (.int n) = pure (.ok text) ∧
      Json.SpellsInteger (trim text) n.toInt := by
  -- The spaces are taken off, and the zeros are part of the spelling.
  have whole : (Number.int n).truncate? = some n.toInt := rfl
  have found : (Value.int n).integer? = some (.int n) := rfl
  refine ⟨_, render_decimal decimal found whole, ?_⟩
  rw [trim_field fills (visible_of_mem_sign request _ _) Nat.toDigits_ne_nil]
  exact spellsInteger_sign request _ n.toInt

/-- In base ten, an integer is read back from its field, so that its text is rendered again as the
integer is. -/
theorem render_decimal_reads_back (decimal : request.conversion = .decimal)
    (fills : request.FillsNumber) (n : Int64) :
    ∃ text, request.render (.int n) = pure (.ok text) ∧
      (Value.text (.ofList text)).number? = some (.int n) ∧
      (Value.text (.ofList text)).integer? = some (.int n) ∧
      ∀ again : Placeholder, again.conversion.isNumeric →
        again.render (.text (.ofList text)) = again.render (.int n) := by
  obtain ⟨text, rendered, spelled⟩ := render_decimal_spells decimal fills n
  -- What is spelled is found by both readers of numbers.
  obtain ⟨number, integer⟩ := Value.number?_spelled spelled
  refine ⟨text, rendered, number, integer, fun again numeric => ?_⟩
  -- Both are the same number, whichever of the two readers the conversion asks.
  rw [render_standing numeric number integer]
  exact (render_standing numeric rfl rfl).symm

/-- The least integer is read back from among zeros. -/
theorem render_decimal_reads_back_least :
    ∃ request : Placeholder, request.conversion = .decimal ∧ request.pad = some .zero ∧
      request.width = some 30 ∧ request.forceSign ∧
      ∃ text, request.render (.int Int64.minValue) = pure (.ok text) ∧
        (Value.text (.ofList text)).number? = some (.int Int64.minValue) := by
  let request : Placeholder :=
    { Placeholder.plain .next .decimal with
      forceSign := true, pad := some .zero, width := some 30 }
  have decimal : request.conversion = .decimal := rfl
  have fills : request.FillsNumber := .inr ⟨.inl rfl, rfl⟩
  obtain ⟨text, rendered, number, -⟩ := render_decimal_reads_back decimal fills Int64.minValue
  exact ⟨request, rfl, rfl, rfl, rfl, text, rendered, number⟩

end TextTemplate
