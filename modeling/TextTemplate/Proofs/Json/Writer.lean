import TextTemplate.Json.Writer
import TextTemplate.Proofs.Json.Grammar
import TextTemplate.Proofs.Number.FewestDigits
import TextTemplate.Proofs.Number.Notation
import TextTemplate.Proofs.Number.Whole

/-! What is written in JSON spells a document: strings their texts, and numbers their values. -/

namespace TextTemplate.Json

/-- A digit in hexadecimal is read as the number it stands for. -/
theorem hexDigit?_digitChar : ∀ n < 16, hexDigit? n.digitChar = some n := by
  decide

/-- A character is escaped where it cannot stand for itself. -/
theorem spellsChar_escape (c : Char) : SpellsChar (escape c) c := by
  unfold escape
  split
  case h_8 quote backslash _ _ _ _ _ =>
    split
    · rename_i control
      -- The code is below 32, so two digits are enough.
      have high := hexDigit?_digitChar (c.toNat / 16) (by omega)
      have low := hexDigit?_digitChar (c.toNat % 16) (by omega)
      have code : 16 * (16 * (16 * 0 + 0) + c.toNat / 16) + c.toNat % 16 = c.toNat := by omega
      have zero : hexDigit? '0' = some 0 := rfl
      have unit := SpellsUnit.digits zero zero high low
      rw [code] at unit
      exact .unit unit
    -- Any other character may stand for itself.
    · rename_i visible
      exact .plain (by omega) quote backslash
  all_goals exact .short (by decide)

/-- The characters of a text are escaped one after the other. -/
theorem spellsChars_escape (cs : List Char) : SpellsChars (cs.flatMap escape) cs := by
  induction cs with
  | nil => exact .nil
  | cons c cs ih => exact .cons (spellsChar_escape c) ih

/-- A text is written as a string of its characters. -/
theorem spellsString_writeString (s : String) : SpellsString (writeString s) s :=
  .quoted (spellsChars_escape s.toList)

/-- An integer is written as a number of its value, with neither decimals nor a power of ten. -/
theorem exists_spellsNumeral_int (n : Int) :
    ∃ numeral, SpellsNumeral n.repr.toList numeral ∧ numeral.IsInteger ∧
      numeral.literal.value = n := by
  refine ⟨⟨n < 0, Nat.toDigits 10 n.natAbs, [], none⟩, ?_, ⟨rfl, rfl⟩, ?_⟩
  · have spelled : SpellsNumeral _ ⟨n < 0, Nat.toDigits 10 n.natAbs, [], none⟩ :=
      .numeral (isDigits_toDigits _) ?_ nofun .missing
    · simpa [repr_toList, fraction] using spelled
    · intro zero
      -- Only zero begins with a zero.
      by_cases some : 1 ≤ n.natAbs
      · exact absurd zero (head?_toDigits some)
      · rw [show n.natAbs = 0 by omega]
        rfl
  -- The digits are those of the absolute value, and the sign is written in front.
  · have magnitude : (Numeral.literal ⟨n < 0, Nat.toDigits 10 n.natAbs, [], none⟩).magnitude =
        n.natAbs := by
      simp [Literal.magnitude, Numeral.literal, Nat.ofDigitChars_ten_toDigits]
    rw [Literal.value, magnitude]
    simp only [Numeral.literal, decide_eq_true_eq]
    split
    · rename_i negative
      rw [Nat.cast_natAbs, abs_of_neg negative, Int.cast_neg, neg_neg]
    · rename_i nonnegative
      rw [Nat.cast_natAbs, abs_of_nonneg (not_lt.mp nonnegative)]

/-- A number in place is spelled with decimals, which are one zero where it is whole. -/
theorem exists_spellsNumeral_plain {digits : Nat} (positive : 0 < digits) (power : Int)
    (negative : Bool) :
    ∃ numeral, SpellsNumeral (minusSign negative ++ ((⟨Nat.toDigits 10 digits, power⟩ :
        Scientific).plain ++ if (⟨Nat.toDigits 10 digits, power⟩ : Scientific).isWhole then
          ['.', '0'] else [])) numeral ∧
      numeral.negative = negative ∧ numeral.decimals ≠ [] ∧
      numeral.literal.magnitude = digits * 10 ^ (power + 1 - digitCount digits) := by
  have nonempty : (⟨Nat.toDigits 10 digits, power⟩ : Scientific).digits ≠ [] := Nat.toDigits_ne_nil
  have written := Scientific.written_inPlace nonempty negative
  have place := Scientific.exponent_inPlace negative ⟨Nat.toDigits 10 digits, power⟩
  have proper := Scientific.isProper_inPlace positive power negative
  have magnitude := Scientific.magnitude_inPlace digits power negative
  have whole := Scientific.decimals_inPlace_eq_nil_iff nonempty negative
  have sign := Scientific.negative_inPlace negative ⟨Nat.toDigits 10 digits, power⟩
  generalize Scientific.inPlace negative ⟨Nat.toDigits 10 digits, power⟩ = numeral at *
  rw [← List.append_assoc, ← written]
  split
  -- A whole number gets a zero behind its point, which does not change its value.
  · rename_i ends
    have none := whole.mpr ends
    refine ⟨{ numeral with decimals := ['0'] }, ?_, sign, List.cons_ne_nil _ _,
      (Numeral.magnitude_zero none place).trans magnitude⟩
    have pointed : Numeral.IsProper { numeral with decimals := ['0'] } :=
      ⟨proper.whole, proper.leading, @isDigit_of_mem_replicate 1⟩
    have spelled := pointed.spells
    simpa [Numeral.written, none, place, fraction] using spelled
  -- Any other number has decimals already.
  · rename_i broken
    rw [List.append_nil]
    exact ⟨numeral, proper.spells, sign, mt whole.mp broken, magnitude⟩

/-- A number with a power of ten is spelled with one digit before its point. -/
theorem exists_spellsNumeral_exponential (negative : Bool) (digits : Nat) (power : Int) :
    ∃ numeral, SpellsNumeral (minusSign negative ++
        (⟨Nat.toDigits 10 digits, power⟩ : Scientific).exponential) numeral ∧
      numeral.negative = negative ∧ numeral.exponent ≠ none ∧
      numeral.literal.magnitude = digits * 10 ^ (power + 1 - digitCount digits) := by
  -- A power of ten is always written here, and it is the exponent of the number.
  have nonempty : (⟨Nat.toDigits 10 digits, power⟩ : Scientific).digits ≠ [] := Nat.toDigits_ne_nil
  refine ⟨Scientific.powered negative ⟨Nat.toDigits 10 digits, power⟩, ?_, rfl,
    Option.some_ne_none power, Scientific.magnitude_powered digits power negative⟩
  rw [← Scientific.written_powered nonempty]
  exact (Scientific.isProper_powered digits power negative).spells

/-- A floating point number that is not zero is written with decimals or a power of ten, and has
the value of its shortest digits. -/
theorem exists_spellsNumeral_float {m : Magnitude} (positive : 0 < m.significand)
    (negative : Bool) :
    ∃ (numeral : Numeral) (literal : Literal),
      SpellsNumeral (writeFloat (.finite negative m)) numeral ∧ ¬ numeral.IsInteger ∧
      literal.IsShortest (.finite negative m) ∧ numeral.literal.value = literal.value := by
  obtain ⟨literal, sign, some, shown, shortest⟩ :=
    Magnitude.exists_isShortest positive Layout.json.tie negative
  have places : (digitCount literal.digits : Int) - 1 - -literal.exponent + 1 -
      digitCount literal.digits = literal.exponent := by ring
  rw [writeFloat, if_neg positive.ne', Layout.write, shown, Scientific.ofScaled]
  -- The sign and the magnitude make up the value.
  suffices written : ∃ numeral, SpellsNumeral (minusSign negative ++ _) numeral ∧
      numeral.negative = negative ∧ ¬ numeral.IsInteger ∧
      numeral.literal.magnitude = literal.digits * 10 ^ literal.exponent by
    obtain ⟨numeral, spelled, minus, broken, magnitude⟩ := written
    refine ⟨numeral, literal, spelled, broken, shortest, ?_⟩
    have same : numeral.literal.negative = literal.negative := minus.trans sign.symm
    rw [Literal.value, Literal.value, magnitude, same, ← Literal.magnitude]
  -- Either layout writes the shortest digits with their power.
  split
  · obtain ⟨numeral, spelled, minus, decimals, magnitude⟩ :=
      exists_spellsNumeral_plain some (digitCount literal.digits - 1 - -literal.exponent) negative
    rw [places] at magnitude
    exact ⟨numeral, spelled, minus, fun integer => decimals integer.1, magnitude⟩
  · obtain ⟨numeral, spelled, minus, power, magnitude⟩ :=
      exists_spellsNumeral_exponential negative literal.digits
        (digitCount literal.digits - 1 - -literal.exponent)
    rw [places] at magnitude
    exact ⟨numeral, spelled, minus, fun integer => power integer.2, magnitude⟩

section

variable {Gap : List Char → Prop} (nothing : Gap [])
include nothing

/-- A document needs no spaces around it where there need not be any. -/
theorem Spells.spaced {cs : List Char} {tree : Tree} (spelled : Spells Gap cs tree) :
    SpellsSpaced Gap cs tree := by
  simpa using SpellsSpaced.spaced nothing spelled nothing

/-- Documents behind commas are the items of an array. -/
theorem spellsItems_flatMap {first : List Char} {parts : List (List Char)} {item : Tree}
    {items : List Tree} (spelled : Spells Gap first item)
    (each : List.Forall₂ (Spells Gap) parts items) :
    SpellsItems Gap (first ++ parts.flatMap fun part => ',' :: part) (item :: items) := by
  -- A comma stands in front of each document but the first.
  induction each generalizing first item with
  | nil =>
    rw [List.flatMap_nil, List.append_nil]
    exact .last (spelled.spaced nothing)
  | cons next _ ih => exact .next (spelled.spaced nothing) (ih next)

/-- Documents are written as an array. -/
theorem spells_array {parts : List (List Char)} {items : List Tree} (depth : Nat)
    (each : List.Forall₂ (Spells Gap) parts items) :
    Spells Gap (block '[' ']' 0 depth parts) (.array items) := by
  -- Without documents the brackets are empty.
  cases each with
  | nil => exact .emptyArray nothing
  | cons first rest =>
    have spelled := Spells.array (spellsItems_flatMap nothing first rest)
    simpa [block, lineBreak] using spelled

/-- Characters are a member of an object: a name as it is written and a document behind a colon. -/
def SpellsMember (Gap : List Char → Prop) (part : List Char) (member : String × Tree) : Prop :=
  ∃ cs, part = writeString member.1 ++ ':' :: cs ∧ Spells Gap cs member.2

/-- Members behind commas are those of an object. -/
theorem spellsMembers_flatMap {first : List Char} {parts : List (List Char)}
    {member : String × Tree} {members : List (String × Tree)}
    (spelled : SpellsMember Gap first member)
    (each : List.Forall₂ (SpellsMember Gap) parts members) :
    SpellsMembers Gap (first ++ parts.flatMap fun part => ',' :: part) (member :: members) := by
  -- The commas stand in front of all members but the first.
  induction each generalizing first member with
  | nil =>
    obtain ⟨cs, rfl, document⟩ := spelled
    have last := SpellsMembers.last nothing (spellsString_writeString member.1) nothing
      (document.spaced nothing)
    simpa using last
  | cons next _ ih =>
    obtain ⟨cs, rfl, document⟩ := spelled
    have more := SpellsMembers.next nothing (spellsString_writeString member.1) nothing
      (document.spaced nothing) (ih next)
    simpa using more

/-- Members are written as an object. -/
theorem spells_object {parts : List (List Char)} {members : List (String × Tree)} (depth : Nat)
    (each : List.Forall₂ (SpellsMember Gap) parts members) :
    Spells Gap (block '\x7b' '\x7d' 0 depth parts) (.object members) := by
  -- Without members nothing stands between the braces.
  cases each with
  | nil => exact .emptyObject nothing
  | cons first rest =>
    have spelled := Spells.object (spellsMembers_flatMap nothing first rest)
    simpa [block, lineBreak] using spelled

end

end TextTemplate.Json
