import TextTemplate.Proofs.Template.CallCount
import TextTemplate.Proofs.Template.Sign

/-! A width puts one block of pad characters into what is shown without it, and a precision leaves
the first characters of a text. -/

namespace TextTemplate

/-- The conversions that show the sign of a number apart from its digits. -/
def Conversion.IsSigned (conversion : Conversion) : Prop :=
  conversion = .decimal ∨ conversion.IsFloat

instance (conversion : Conversion) : Decidable conversion.IsSigned :=
  inferInstanceAs (Decidable (_ ∨ _ ∨ _ ∨ _))

/-- The conversions that show a text of a value, no more of it than the precision. -/
def Conversion.IsTextual (conversion : Conversion) : Prop :=
  conversion ∈ [.text, .truth, .kind, .primitive]

/-- The character that fills up a field. -/
def Placeholder.padChar (request : Placeholder) : Char :=
  (request.pad.map Pad.char).getD ' '

/-- Where a field is filled up: behind a text that is justified to the left, behind a sign that
zeros keep in front of them, and else in front of the text. -/
def Placeholder.fillAt (request : Placeholder) (text : List Char) : Nat :=
  if request.leftJustify then text.length
  else if request.padChar = '0' ∧ request.conversion.IsSigned ∧
      (text.head? = some '-' ∨ text.head? = some '+') then 1
  else 0

/-- A text with a block put in at some place of it. -/
def inserted (text : List Char) (place : Nat) (block : List Char) : List Char :=
  text.take place ++ (block ++ text.drop place)

/-- A sign is apart from the text of a fragment where its conversion shows it apart. -/
def Placeholder.Separates (request : Placeholder) : Fragment → Prop
  | .plain _ => ¬ request.conversion.IsSigned
  | .signed body nonnegative => request.conversion.IsSigned ∧
      (nonnegative → request.forceSign = false → unsignedBody body = body)
  | .verbatim _ => False

variable {request : Placeholder} {value : Value} {number : Number} {fragment : Fragment}
  {width : Nat}

/-- A block is put in behind a front of the text. -/
theorem inserted_append (front back block : List Char) :
    inserted (front ++ back) front.length block = front ++ (block ++ back) := by
  -- The front is as long as the place is far.
  rw [inserted, List.take_left, List.drop_left]

/-- A text does not begin with a sign where there is none to take off. -/
theorem head?_of_unsigned {body : List Char} (unsigned : unsignedBody body = body) :
    ¬ (body.head? = some '-' ∨ body.head? = some '+') := by
  -- A sign would be taken off, which makes the text shorter.
  rintro (minus | plus)
  · obtain ⟨rest, rfl⟩ := List.head?_eq_some_iff.mp minus
    exact absurd unsigned.symm (List.cons_ne_self _ _)
  · obtain ⟨rest, rfl⟩ := List.head?_eq_some_iff.mp plus
    exact absurd unsigned.symm (List.cons_ne_self _ _)

/-- A field with a width is filled up behind the text, behind its sign or in front of it. -/
theorem field_wide (wide : request.width = some width) (sign body : List Char) :
    request.field sign body =
      inserted (sign ++ body)
        (if request.leftJustify then (sign ++ body).length
          else if request.padChar = '0' then sign.length else 0)
        (List.replicate (width - (sign ++ body).length) request.padChar) := by
  have padded : (request.pad.map Pad.char).getD ' ' = request.padChar := rfl
  -- The three ways of filling up a field are the three places.
  simp only [Placeholder.field, padded, wide, Option.getD_some, ← List.length_append]
  generalize List.replicate (width - (sign ++ body).length) request.padChar = block
  split
  · rw [inserted, List.take_length, List.drop_length, List.append_nil]
  split
  · rw [inserted_append, List.append_assoc]
  · rw [inserted, List.take_zero, List.drop_zero, List.nil_append, List.append_assoc]

/-- A field is filled up behind the sign of a number where zeros keep the sign in front of them. -/
theorem fillAt_append {sign body : List Char} (signs : sign ∈ [[], ['-'], ['+']])
    (signed : sign ≠ [] → request.conversion.IsSigned)
    (apart : sign = [] → request.conversion.IsSigned → unsignedBody body = body) :
    request.fillAt (sign ++ body) =
      if request.leftJustify then (sign ++ body).length
      else if request.padChar = '0' then sign.length else 0 := by
  unfold Placeholder.fillAt
  split
  · rfl
  by_cases empty : sign = []
  · -- Zeros stand in front of a text without a sign, like other characters.
    have none : ¬ (request.conversion.IsSigned ∧
        ((sign ++ body).head? = some '-' ∨ (sign ++ body).head? = some '+')) := by
      subst empty
      exact fun begins => head?_of_unsigned (apart rfl begins.1) begins.2
    rw [if_neg fun zero => none zero.2, empty, List.length_nil, ite_self]
  -- A sign is one character long, and its text begins with it.
  · obtain rfl | rfl : sign = ['-'] ∨ sign = ['+'] := by simpa [empty] using signs
    · simp [signed empty]
    · simp [signed empty]

/-- A fragment is put into a field with its sign apart from its body. -/
theorem Placeholder.Separates.exists_field (separates : request.Separates fragment) :
    ∃ sign body, (∀ other : Placeholder, other.forceSign = request.forceSign →
        other.compose fragment = other.field sign body) ∧
      sign ∈ [[], ['-'], ['+']] ∧ (sign ≠ [] → request.conversion.IsSigned) ∧
      (sign = [] → request.conversion.IsSigned → unsignedBody body = body) := by
  cases fragment with
  | plain text =>
    exact ⟨[], text, fun _ _ => rfl, .head _, absurd rfl, fun _ signed => absurd signed separates⟩
  | verbatim text => exact separates.elim
  | signed body nonnegative =>
    -- The sign of a number is taken off its body and put in front of the padding.
    obtain ⟨signed, apart⟩ := separates
    refine ⟨request.sign nonnegative,
      if nonnegative && !request.forceSign then body else unsignedBody body,
      fun other same => ?_, sign_mem request nonnegative, fun _ => signed, fun none _ => ?_⟩
    · unfold compose sign
      rw [same]
      cases nonnegative <;> cases request.forceSign <;> rfl
    · -- No sign is shown only of a number that is not negative, unless a plus is asked for.
      unfold sign at none
      cases nonnegative with
      | false => exact absurd none (List.cons_ne_nil _ _)
      | true =>
        cases forced : request.forceSign with
        | true => simp [forced] at none
        | false => simpa using apart rfl forced

/-- A text grows up to the width by a block that fills it up. -/
theorem length_inserted_replicate (text : List Char) (place : Nat) (c : Char) :
    (inserted text place (List.replicate (width - text.length) c)).length =
      max width text.length := by
  -- The block makes up for what is missing, and nothing is missing from a longer text.
  simp only [inserted, List.length_append, List.length_take, List.length_replicate,
    List.length_drop]
  omega

/-- A width puts one block of pad characters into what is shown of a fragment without it. -/
theorem compose_wide (wide : request.width = some width) (separates : request.Separates fragment)
    {narrow : List Char}
    (shown : Placeholder.compose { request with width := none } fragment = narrow) :
    (request.compose fragment).length = max width narrow.length ∧
      request.compose fragment = inserted narrow (request.fillAt narrow)
        (List.replicate (width - narrow.length) request.padChar) := by
  -- Both fields have the same sign and body, and the one without a width shows them as they are.
  obtain ⟨sign, body, field, signs, signed, apart⟩ := separates.exists_field
  have bare := field { request with width := none } rfl
  rw [field_narrow rfl, shown] at bare
  rw [field request rfl, field_wide wide, ← fillAt_append signs signed apart, ← bare]
  exact ⟨length_inserted_replicate _ _ _, rfl⟩

/-- The other numeric conversions show a number as text. -/
theorem convertNumber_plain (numeric : request.conversion.isNumeric)
    (unsigned : ¬ request.conversion.IsSigned) (number : Number) :
    ∃ text, request.convertNumber number = .plain text := by
  -- The conversions to a base and to a character do not treat the sign apart.
  unfold Placeholder.convertNumber
  generalize request.conversion = conversion at numeric unsigned
  cases conversion with
  | binary | octal | hexLower | hexUpper | unsigned | character => exact ⟨_, rfl⟩
  | decimal | exponential | fixed | general => exact absurd (by decide) unsigned
  | json | text | truth | kind | primitive => contradiction

/-- What is not a number is converted as a negative one. -/
theorem convertNumber_nan (float : request.conversion.IsFloat) :
    ∃ body, request.convertNumber (.float .nan) = .signed body false := by
  -- None of the three notations has a digit to show.
  unfold Placeholder.convertNumber
  rcases float with exponential | fixed | general
  · simp only [exponential]
    exact ⟨_, rfl⟩
  · simp only [fixed]
    cases request.precision <;> exact ⟨_, rfl⟩
  · simp only [general]
    cases request.precision <;> exact ⟨_, rfl⟩

/-- Without a minus that a zero keeps, a number is converted so that its sign is apart. -/
theorem separates_convertNumber (numeric : request.conversion.isNumeric)
    (loses : ¬ request.KeepsMinus number) :
    request.Separates (request.convertNumber number) := by
  by_cases decimal : request.conversion = .decimal
  · rw [convertNumber_decimal decimal]
    refine ⟨.inl decimal, fun nonnegative _ => ?_⟩
    unfold integerText
    cases whole : number.truncate? with
    | none => rfl
    | some n =>
      -- No minus is shown, since a number with a negative integer part is negative.
      have positive : ¬ n < 0 := fun negative =>
        absurd nonnegative (Bool.eq_false_iff.mp (Number.nonnegative_of_truncate? whole negative))
      simp only [positive, decide_false, minusSign, Bool.false_eq_true, if_false, List.nil_append]
      exact (leadsDigit_toDigits _).begins.unsigned
  by_cases float : request.conversion.IsFloat
  · by_cases real : number = .float .nan
    · subst real
      obtain ⟨body, converted⟩ := convertNumber_nan float
      rw [converted]
      exact ⟨.inr float, fun nonnegative => absurd nonnegative Bool.false_ne_true⟩
    -- The only minus of a number that is not negative is that of a zero with a power of ten.
    · obtain ⟨text, converted, body, rfl, begins⟩ := convertNumber_float float real
      rw [converted]
      refine ⟨.inr float, fun nonnegative unforced => ?_⟩
      have plain : ¬ (request.conversion = .exponential ∧ number = .negativeZero) :=
        fun special => loses ⟨special.1, special.2, unforced⟩
      simp only [nonnegative, plain, Bool.not_true, decide_false, Bool.or_self, minusSign,
        Bool.false_eq_true, if_false, List.nil_append]
      exact begins.unsigned
  -- The sign of any other conversion is part of its text.
  · have unsigned : ¬ request.conversion.IsSigned := not_or.mpr ⟨decimal, float⟩
    obtain ⟨text, converted⟩ := convertNumber_plain numeric unsigned number
    rw [converted]
    exact unsigned

/-- A conversion needs a number, shows a text of a value, or dumps it. -/
theorem Conversion.numeric_or_textual {conversion : Conversion} (other : conversion ≠ .json) :
    conversion.isNumeric ∨ conversion.IsTextual := by
  -- There are finitely many conversions.
  revert other
  unfold IsTextual
  cases conversion <;> decide

/-- A text of a value is not a number, and has no sign apart. -/
theorem Conversion.IsTextual.unsigned {conversion : Conversion} (textual : conversion.IsTextual) :
    conversion.isNumeric = false ∧ ¬ conversion.IsSigned := by
  revert textual
  unfold IsTextual
  cases conversion <;> decide

/-- A text has no sign apart where it is cut. -/
theorem separates_cut (textual : request.conversion.IsTextual) (text : List Char) :
    request.Separates (request.cut text) := by
  -- A text has no sign of its own, whether it is cut or not.
  unfold Placeholder.cut
  split <;> exact textual.unsigned.2

/-- A value without deferred values is rendered as its number, or refused where it has none. -/
theorem render_numeric (numeric : request.conversion.isNumeric) (free : value.isCallFree) :
    request.render value = pure
      (match request.number? value with
        | some number => .ok (request.compose (request.convertNumber number))
        | none => .error (.notNumeric request.conversion value.kind)) := by
  -- A value without calls is known as it stands.
  cases found : request.number? value with
  | some number => exact render_number numeric found
  | none =>
    simp [Placeholder.render, Placeholder.convert, Value.resolve_of_isCallFree free, numeric, found,
      Except.map]

/-- A value without deferred values has one text that is shown of it, up to the precision. -/
theorem exists_textual (textual : request.conversion.IsTextual) (free : value.isCallFree) :
    ∃ whole, ∀ other : Placeholder, other.conversion = request.conversion →
      other.render value = pure (.ok (other.compose (other.cut whole))) := by
  -- What is shown of a value is settled without calls, so the precision and the width come later.
  obtain ⟨shown, displayed⟩ :=
    Value.display_settles value (Value.dumpsDeferred_of_isCallFree value free)
  have known := Value.resolve_of_isCallFree free
  generalize request.conversion = conversion at textual
  unfold Conversion.IsTextual at textual
  cases conversion with
  | text | primitive =>
    refine ⟨shown, fun other same => ?_⟩
    simp [Placeholder.render, Placeholder.convert, known, same, displayed, Except.map,
      Conversion.isNumeric, Conversion.isInteger]
  | truth =>
    refine ⟨(toString value.isTrue).toList, fun other same => ?_⟩
    simp [Placeholder.render, Placeholder.convert, known, same, Except.map,
      Conversion.isNumeric, Conversion.isInteger]
  | kind =>
    refine ⟨value.kind.name.toList, fun other same => ?_⟩
    simp [Placeholder.render, Placeholder.convert, known, same, Except.map,
      Conversion.isNumeric, Conversion.isInteger]
  | _ => simp at textual

/-- Where no minus of a zero is kept, a width puts one block of pad characters into what is shown
without it, so that the width is reached. What is shown of a text is its front up to the
precision. -/
theorem render_width_inserts (other : request.conversion ≠ .json)
    (wide : request.width = some width) (free : value.isCallFree)
    (loses : ∀ number, value.number? = some number → ¬ request.KeepsMinus number) :
    (∃ fault, request.render value = pure (.error fault) ∧
      { request with width := none }.render value = pure (.error fault)) ∨
    ∃ narrow text, { request with width := none }.render value = pure (.ok narrow) ∧
      request.render value = pure (.ok text) ∧
      text.length = max width narrow.length ∧
      text = inserted narrow (request.fillAt narrow)
        (List.replicate (width - narrow.length) request.padChar) ∧
      (request.conversion.IsTextual → ∀ most, request.precision = some most →
        ∃ whole, { request with width := none, precision := none }.render value =
          pure (.ok whole) ∧ narrow = whole.take most) := by
  let bare := { request with width := none }
  -- A number is converted with its sign apart, and a text is cut and has none.
  rcases request.conversion.numeric_or_textual other with numeric | textual
  · have rendered := render_numeric numeric free
    have narrow := render_numeric (show bare.conversion.isNumeric from numeric) free
    rw [show bare.number? value = request.number? value from rfl] at narrow
    cases found : request.number? value with
    | none =>
      rw [found] at rendered narrow
      exact .inl ⟨_, rendered, narrow⟩
    | some number =>
      rw [found] at rendered narrow
      -- Only a floating point conversion keeps the minus, and it reads the number of the value
      -- itself.
      have kept : ¬ request.KeepsMinus number := by
        intro keeps
        have float : request.conversion.isInteger = false := by rw [keeps.1]; rfl
        rw [Placeholder.number?, float] at found
        exact loses number found keeps
      obtain ⟨length, block⟩ := compose_wide wide (separates_convertNumber numeric kept) rfl
      refine .inr ⟨_, _, narrow, rendered, length, block, fun textual => ?_⟩
      exact absurd numeric (Bool.eq_false_iff.mp textual.unsigned.1)
  · obtain ⟨whole, shown⟩ := exists_textual textual free
    obtain ⟨length, block⟩ := compose_wide wide (separates_cut textual whole) rfl
    refine .inr ⟨_, _, shown bare rfl, shown request rfl, length, block, fun _ most precise => ?_⟩
    refine ⟨whole, ?_, ?_⟩
    · rw [shown { request with width := none, precision := none } rfl]
      exact congrArg (pure ∘ Except.ok) (field_narrow rfl [] whole)
    · have cut : bare.cut whole = .plain (whole.take most) := by
        simp only [Placeholder.cut, show bare.precision = some most from precise]
      rw [cut]
      exact field_narrow (show bare.width = none from rfl) [] _

/-- Zeros stand behind the minus of what is not a number. -/
theorem render_width_inserts_nan :
    ∃ request : Placeholder, request.conversion = .decimal ∧ request.width = some 6 ∧
      { request with width := none }.render (.float .nan) = pure (.ok "-NaN".toList) ∧
      request.render (.float .nan) = pure (.ok "-00NaN".toList) := by
  let request : Placeholder :=
    { Placeholder.plain .next .decimal with pad := some (.character '0'), width := some 6 }
  let bare := { request with width := none }
  have other : request.conversion ≠ .json := by decide
  have wide : request.width = some 6 := rfl
  -- What is not a number keeps no minus.
  have loses : ∀ number, (Value.float .nan).number? = some number →
      ¬ request.KeepsMinus number := fun _ _ keeps => absurd keeps.1 (by decide)
  have numeric : bare.conversion.isNumeric := rfl
  have found : bare.number? (.float .nan) = some (.float .nan) := rfl
  have shown : bare.render (.float .nan) = pure (.ok "-NaN".toList) := by
    rw [render_number numeric found]
    exact congrArg (pure ∘ Except.ok) (by decide)
  obtain ⟨fault, -, failed⟩ | ⟨narrow, text, narrowed, rendered, -, block, -⟩ :=
    render_width_inserts other wide rfl loses
  · exact absurd (Calls.pure_inj.mp (failed.symm.trans shown)) nofun
  · have same : narrow = "-NaN".toList :=
      Except.ok.inj (Calls.pure_inj.mp (narrowed.symm.trans shown))
    rw [block, same] at rendered
    exact ⟨request, rfl, wide, shown, rendered⟩

end TextTemplate
