import TextTemplate.Proofs.Json.Unambiguous
import TextTemplate.Proofs.Json.Writer
import TextTemplate.Proofs.Number.Numeral
import TextTemplate.Proofs.Number.Truncation
import TextTemplate.Proofs.Template.Printer
import TextTemplate.Proofs.Template.Rendering
import TextTemplate.Proofs.Text.Blank

/-! A number is converted and put into its field, which is filled up with spaces around it or with
zeros in front of it. -/

namespace TextTemplate

/-- A field is filled up with spaces, or with zeros in front of what it shows. -/
def Placeholder.FillsNumber (request : Placeholder) : Prop :=
  request.pad = none ∨
    (request.pad = some .zero ∨ request.pad = some (.character '0')) ∧ request.leftJustify = false

/-- The count of zeros that fill up a field around a text of some length. -/
def Placeholder.zeros (request : Placeholder) (length : Nat) : Nat :=
  if request.pad = none then 0 else request.width.getD 0 - length

/-- The digits in which a conversion shows an integer, from zero on. -/
def Conversion.alphabet? : Conversion → Option (List Char)
  | .binary => some "01".toList
  | .octal => some "01234567".toList
  | .decimal => some "0123456789".toList
  | .hexLower => some "0123456789abcdef".toList
  | .hexUpper => some "0123456789ABCDEF".toList
  | _ => none

/-- How a conversion spells a digit. -/
def Conversion.letter : Conversion → Char → Char
  | .hexUpper => Char.toUpper
  | _ => id

/-- The sign that is shown of a number apart from its digits. -/
def Placeholder.sign (request : Placeholder) (nonnegative : Bool) : List Char :=
  if nonnegative then if request.forceSign then ['+'] else [] else ['-']

variable {request : Placeholder} {value : Value} {number : Number} {alphabet : List Char}

/-- The usual digits are those of base ten. -/
theorem isAlphabet_decimal : IsAlphabet "0123456789".toList id := by
  constructor <;> decide

/-- The digits that a conversion shows are those of an alphabet. -/
theorem isAlphabet_of_alphabet? (shown : request.conversion.alphabet? = some alphabet) :
    IsAlphabet alphabet request.conversion.letter := by
  generalize request.conversion = conversion at shown
  -- Each of the five alphabets is checked digit by digit.
  cases conversion with
  | binary | octal | decimal | hexLower | hexUpper =>
    cases shown
    constructor <;> decide
  | _ => contradiction

/-- The digits that a conversion shows are no white space. -/
theorem visible_of_alphabet? (shown : request.conversion.alphabet? = some alphabet) :
    ∀ c ∈ alphabet, isBlank c = false := by
  -- Each of the five is checked digit by digit.
  apply visible_of_not_any
  generalize request.conversion = conversion at shown
  cases conversion with
  | binary | octal | decimal | hexLower | hexUpper =>
    cases shown
    decide
  | _ => contradiction

/-- A conversion that shows digits shows the integer part of a number. -/
theorem isInteger_of_alphabet? (shown : request.conversion.alphabet? = some alphabet) :
    request.conversion.isInteger := by
  -- The other conversions have no alphabet.
  generalize request.conversion = conversion at shown
  cases conversion with
  | binary | octal | decimal | hexLower | hexUpper => rfl
  | _ => contradiction

/-- The digits of an integer and its sign are no white space. -/
theorem visible_of_mem_digits (shown : request.conversion.alphabet? = some alphabet) (n : Int) :
    ∀ c ∈ minusSign (n < 0) ++
      (Nat.toDigits alphabet.length n.natAbs).map request.conversion.letter, isBlank c = false := by
  refine List.forall_mem_append.mpr ⟨?_, ?_⟩
  · -- The sign is a minus or nothing.
    apply visible_of_not_any
    unfold minusSign
    split <;> decide
  · intro c digit
    exact visible_of_alphabet? shown c ((isAlphabet_of_alphabet? shown).mem_toDigits _ c digit)

/-- Spelling digits in letters leaves a sign as it is. -/
theorem map_letter_minusSign (conversion : Conversion) (negative : Bool) :
    (minusSign negative).map conversion.letter = minusSign negative := by
  -- A minus has no capital letter.
  have kept : conversion.letter '-' = '-' := by cases conversion <;> rfl
  cases negative with
  | false => rfl
  | true => simp [minusSign, kept]

/-- The integer part of a number is shown as its sign and its digits. -/
theorem integerText_eq {n : Int} (whole : number.truncate? = some n) (base : Nat) :
    integerText base number = minusSign (n < 0) ++ Nat.toDigits base n.natAbs := by
  simp only [integerText, whole]

/-- A number is shown in base ten with a sign of its own. -/
theorem convertNumber_decimal (decimal : request.conversion = .decimal) (number : Number) :
    request.convertNumber number = .signed (integerText 10 number) number.nonnegative := by
  simp only [Placeholder.convertNumber, decimal]

/-- A number is shown in another base as text, which holds its sign. -/
theorem convertNumber_radix (shown : request.conversion.alphabet? = some alphabet)
    (other : request.conversion ≠ .decimal) {n : Int} (whole : number.truncate? = some n) :
    request.convertNumber number = .plain (minusSign (n < 0) ++
      (Nat.toDigits alphabet.length n.natAbs).map request.conversion.letter) := by
  have text : request.convertNumber number =
      .plain ((integerText alphabet.length number).map request.conversion.letter) := by
    unfold Placeholder.convertNumber
    generalize request.conversion = conversion at shown other
    -- Digits are spelled in small letters, which only one conversion turns into capitals.
    cases conversion with
    | binary | octal | hexLower =>
      cases shown
      exact congrArg Fragment.plain (List.map_id _).symm
    | hexUpper =>
      cases shown
      rfl
    | _ => contradiction
  rw [text, integerText_eq whole, List.map_append, map_letter_minusSign]

/-- A value that stands for a number is known without a call. -/
theorem resolve_of_number? (found : request.number? value = some number) :
    value.resolve = pure value := by
  cases value with
  | deferred =>
    -- Only a deferred value is called, and it stands for no number.
    unfold Placeholder.number? at found
    split at found <;> contradiction
  | _ => rfl

/-- A value is rendered as the number that it stands for. -/
theorem render_number (numeric : request.conversion.isNumeric)
    (found : request.number? value = some number) :
    request.render value = pure (.ok (request.compose (request.convertNumber number))) := by
  -- A number cannot be refused, so that only its conversion and its field are left.
  simp [Placeholder.render, Placeholder.convert, resolve_of_number? found, numeric, found,
    Except.map]

/-- A value that stands for one number to all conversions is rendered as that number. -/
theorem render_standing (numeric : request.conversion.isNumeric)
    (found : value.number? = some number) (integer : value.integer? = some number) :
    request.render value = pure (.ok (request.compose (request.convertNumber number))) := by
  -- It does not matter which of the two readers the conversion asks.
  have requested : request.number? value = some number := by
    unfold Placeholder.number?
    split
    · exact integer
    · exact found
  exact render_number numeric requested

/-- A template of one placeholder is rendered as the placeholder is, and fails where it does. -/
theorem format_alone (valid : request.WellFormed) (next : request.selector = .next)
    {result : Except RenderFault (List Char)} (shown : request.render value = pure result) :
    format (printed [.placeholder request]) [value] =
      pure (match result with
        | .ok text => .ok (String.ofList text)
        | .error fault =>
          .error (.render ⟨⟨0, byteLength (Piece.placeholder request).printed⟩, fault⟩)) := by
  have picked : request.selector.pick [value] 1 = .ok value := by
    rw [next]
    rfl
  have text : printed [.placeholder request] = String.ofList request.spelling.text := by
    simp [printed, Piece.printed]
  -- The argument is the next in line, and nothing is called.
  funext before
  have formatted := format_single valid.spells [value] before
  simp only [Piece.render, picked, shown, outcome_pure] at formatted
  rw [text]
  refine formatted.trans ?_
  cases result with
  | ok text => rfl
  | error fault => rfl

/-- A template of one placeholder is rendered as the placeholder is. -/
theorem format_placeholder (valid : request.WellFormed) (next : request.selector = .next)
    {text : List Char} (shown : request.render value = pure (.ok text)) :
    format (printed [.placeholder request]) [value] = pure (.ok (String.ofList text)) :=
  format_alone valid next shown

/-- The sign of a number takes the place of a sign in its text. -/
theorem compose_signed (request : Placeholder) {negative nonnegative : Bool} {body : List Char}
    (unsigned : unsignedBody body = body)
    (agree : negative → nonnegative = false ∨ request.forceSign) :
    request.compose (.signed (minusSign negative ++ body) nonnegative) =
      request.field (request.sign nonnegative) body := by
  have kept : unsignedBody (minusSign negative ++ body) = body := by
    cases negative with
    | false => exact unsigned
    | true => rfl
  -- What is left of the text is the body, whether a minus was taken off it or not.
  simp only [Placeholder.compose, Placeholder.sign, kept]
  cases nonnegative with
  | false => rfl
  | true =>
    cases forced : request.forceSign with
    | true => rfl
    | false =>
      -- No sign is shown, so there must be none in the text.
      cases negative with
      | false => rfl
      | true => simp [forced] at agree

/-- A value is rendered as the integer part of the number that it stands for. -/
theorem render_integer (integer : request.conversion.isInteger)
    (found : value.integer? = some number) :
    request.render value = pure (.ok (request.compose (request.convertNumber number))) := by
  have numeric : request.conversion.isNumeric := by
    generalize request.conversion = conversion at integer
    cases conversion <;> first | rfl | contradiction
  -- Conversions to integers ask for the integer part.
  have requested : request.number? value = some number := by
    rwa [Placeholder.number?, if_pos integer]
  exact render_number numeric requested

/-- In a base other than ten, the sign of an integer is part of what fills the field. -/
theorem render_radix (shown : request.conversion.alphabet? = some alphabet)
    (other : request.conversion ≠ .decimal) (found : value.integer? = some number) {n : Int}
    (whole : number.truncate? = some n) :
    request.render value = pure (.ok (request.field [] (minusSign (n < 0) ++
      (Nat.toDigits alphabet.length n.natAbs).map request.conversion.letter))) := by
  -- A conversion in another base gives plain text, which is put into the field whole.
  rw [render_integer (isInteger_of_alphabet? shown) found, convertNumber_radix shown other whole,
    Placeholder.compose]

/-- A digit is no sign. -/
theorem unsignedBody_of_isDigit {c : Char} (digit : c.isDigit) (rest : List Char) :
    unsignedBody (c :: rest) = c :: rest := by
  -- Only a plus or a minus is taken off.
  unfold unsignedBody
  split
  · rename_i plus
    cases plus
    exact absurd digit (by decide)
  · rename_i minus
    cases minus
    exact absurd digit (by decide)
  · rfl

/-- In base ten, an integer is shown behind the sign of its number. -/
theorem render_decimal (decimal : request.conversion = .decimal)
    (found : value.integer? = some number) {n : Int} (whole : number.truncate? = some n) :
    request.render value = pure (.ok
      (request.field (request.sign number.nonnegative) (Nat.toDigits 10 n.natAbs))) := by
  have integer : request.conversion.isInteger := by
    rw [decimal]
    rfl
  -- Digits begin with no sign.
  have unsigned : unsignedBody (Nat.toDigits 10 n.natAbs) = Nat.toDigits 10 n.natAbs := by
    obtain ⟨c, rest, split, digit⟩ := (Json.isDigits_toDigits n.natAbs).head
    rw [split]
    exact unsignedBody_of_isDigit digit rest
  -- Truncation makes no number negative, so that a minus in front of the digits is that of the
  -- number, but a negative number may have an integer part without one.
  have agree : decide (n < 0) → number.nonnegative = false ∨ request.forceSign := fun negative =>
    .inl (Number.nonnegative_of_truncate? whole (of_decide_eq_true negative))
  rw [render_integer integer found, convertNumber_decimal decimal, integerText_eq whole,
    compose_signed request unsigned agree]

/-- A field without a width adds nothing. -/
theorem field_narrow (narrow : request.width = none) (sign body : List Char) :
    request.field sign body = sign ++ body := by
  -- There is nothing to fill up.
  simp [Placeholder.field, narrow]

/-- Without the spaces around it, a number in its field is its sign, zeros and its digits. -/
theorem trim_field (fills : request.FillsNumber) {sign body : List Char}
    (visible : ∀ c ∈ sign ++ body, isBlank c = false) (nonempty : body ≠ []) :
    trim (request.field sign body) =
      sign ++ (List.replicate (request.zeros (sign.length + body.length)) '0' ++ body) := by
  have some : sign ++ body ≠ [] := List.append_ne_nil_of_right_ne_nil _ nonempty
  unfold Placeholder.field Placeholder.zeros
  -- The field is filled up with spaces or with zeros.
  rcases fills with spaces | ⟨zero, right⟩
  · generalize request.width.getD 0 - (sign.length + body.length) = count
    have blank : ∀ c ∈ List.replicate count ' ', isBlank c := by
      intro c member
      rw [List.eq_of_mem_replicate member]
      decide
    have nothing : ∀ c ∈ ([] : List Char), isBlank c := nofun
    simp only [spaces, Option.map_none, Option.getD_none, if_true, List.replicate_zero,
      List.nil_append]
    -- The spaces stand behind the text or in front of it.
    split
    · have trimmed := trim_surrounded nothing blank visible some
      rwa [List.nil_append] at trimmed
    · have trimmed := trim_surrounded blank nothing visible some
      rwa [List.append_nil, ← List.append_assoc] at trimmed
  · have pad : request.pad ≠ none ∧ (request.pad.map Pad.char).getD ' ' = '0' := by
      rcases zero with zero | zero <;> simp [zero, Pad.char]
    rw [if_neg pad.1, pad.2, right]
    simp only [Bool.false_eq_true, if_false, if_true, List.append_assoc]
    -- The zeros are no white space either, so that nothing is taken off.
    apply trim_visible
    obtain ⟨before, behind⟩ := List.forall_mem_append.mp visible
    have zeros : ∀ c ∈ List.replicate (request.width.getD 0 - (sign.length + body.length)) '0',
        isBlank c = false := by
      intro c member
      exact isBlank_of_isDigit (Json.isDigit_of_mem_replicate c member)
    exact List.forall_mem_append.mpr ⟨before, List.forall_mem_append.mpr ⟨zeros, behind⟩⟩

/-- Without the spaces around it, a text in its field is zeros and the text. -/
theorem trim_field_unsigned (fills : request.FillsNumber) {body : List Char}
    (visible : ∀ c ∈ body, isBlank c = false) (nonempty : body ≠ []) :
    trim (request.field [] body) = List.replicate (request.zeros body.length) '0' ++ body := by
  -- This is the case of no sign.
  have trimmed := trim_field fills (List.nil_append body ▸ visible) nonempty
  rwa [List.length_nil, Nat.zero_add, List.nil_append] at trimmed

end TextTemplate
