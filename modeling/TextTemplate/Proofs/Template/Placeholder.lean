import TextTemplate.Proofs.Template.Fields

/-! A placeholder is read exactly where it is spelled, whatever stands behind it. -/

namespace TextTemplate

/-- Characters select an argument, where any key may stand between parentheses. -/
inductive SpellsAddress : List Char → Address → Prop where
  | next : SpellsAddress [] .next
  | number {digits : List Char} {position : Nat} :
      SpellsNumber digits position → digits.head? ≠ some '0' →
      SpellsAddress (digits ++ ['$']) (.number position)
  | key {key : List Char} : key ≠ [] → ')' ∉ key → SpellsAddress ('(' :: (key ++ [')'])) (.key key)

/-- A selector is an address whose key is a path. -/
theorem spellsSelector_iff {cs : List Char} {selector : Selector} :
    SpellsSelector cs selector ↔
      ∃ address, SpellsAddress cs address ∧ address.selector = .ok selector := by
  constructor
  · intro spelled
    cases spelled with
    | next => exact ⟨.next, .next, rfl⟩
    | @number _ position number nonzero => exact ⟨.number position, .number number nonzero, rfl⟩
    | @path key segments path =>
      -- A path fits between parentheses, so it is a key, and the key is read as it.
      obtain ⟨nonempty, closed⟩ := path.key
      refine ⟨.key key, .key nonempty closed, ?_⟩
      simp [Address.selector, readPath?_eq_some_iff.mpr path]
  · intro addressed
    obtain ⟨address, spelled, resolved⟩ := addressed
    cases spelled with
    | next => cases resolved; exact .next
    | number number nonzero => cases resolved; exact .number number nonzero
    | key nonempty closed =>
      simp only [Address.selector] at resolved
      -- Only a key that is a path selects anything.
      split at resolved
      · rename_i path
        cases resolved
        exact .path (readPath?_eq_some_iff.mp path)
      · contradiction

/-- The number of an argument is read in full where no further digit follows. -/
theorem readPosition?_append {digits rest : List Char} {position : Nat}
    (spelled : SpellsNumber digits position) (nonzero : digits.head? ≠ some '0')
    (stops : ∀ c ∈ rest.head?, c.isDigit = false) :
    readPosition? (digits ++ rest) = some (position, rest) := by
  unfold readPosition?
  -- The digits do not begin with the zero that would stop the reader.
  split
  · rename_i begins
    cases digits with
    | nil => exact absurd rfl spelled.nonempty
    | cons c digits =>
      cases begins
      exact absurd rfl nonzero
  · exact readNumber?_append spelled stops

/-- The number of an argument that is read is spelled by the digits in front. -/
theorem readPosition?_spells {cs rest : List Char} {position : Nat}
    (read : readPosition? cs = some (position, rest)) :
    ∃ digits, cs = digits ++ rest ∧ SpellsNumber digits position ∧ digits.head? ≠ some '0' := by
  unfold readPosition? at read
  split at read
  · contradiction
  · rename_i noZero
    obtain ⟨digits, rfl, spelled, _⟩ := readNumber?_spells read
    -- A zero in front would have been refused.
    refine ⟨digits, rfl, spelled, fun first => ?_⟩
    cases digits with
    | nil => simp at first
    | cons c digits =>
      cases first
      exact noZero _ rfl

/-- Without a digit in front no argument is numbered. -/
theorem readPosition?_none {cs : List Char} (stops : ∀ c ∈ cs.head?, c.isDigit = false) :
    readPosition? cs = none := by
  -- A zero in front is refused, and otherwise there is no number.
  unfold readPosition?
  split
  · rfl
  · exact readNumber?_none stops

/-- Nothing is read as an address in front of characters that begin no number and no key. -/
theorem readAddress_next {cs : List Char} (noKey : cs.head? ≠ some '(')
    (noNumber : ∀ position rest, readPosition? cs ≠ some (position, '$' :: rest)) :
    readAddress cs = (.next, cs) := by
  unfold readAddress
  -- Without a parenthesis only a number before a dollar sign could be taken.
  split
  · rename_i read
    exact absurd read (noNumber _ _)
  · rfl
  · split
    · exact absurd rfl noKey
    · rfl

/-- An address that is written is read, whatever stands behind it. -/
theorem readAddress_append {cs : List Char} {address : Address} (spelled : SpellsAddress cs address)
    (written : cs ≠ []) (rest : List Char) : readAddress (cs ++ rest) = (address, rest) := by
  cases spelled with
  | next => contradiction
  | @number digits position number nonzero =>
    -- The dollar sign ends the digits.
    have read : readPosition? (digits ++ '$' :: rest) = some (position, '$' :: rest) :=
      readPosition?_append number nonzero (by rintro c ⟨⟩; rfl)
    simp [readAddress, read]
  | @key key nonempty closed =>
    -- The key runs up to its closing parenthesis, and no number can begin with the opening one.
    have inside : ∀ c ∈ key, decide (c ≠ ')') = true := by
      intro c member
      simp only [decide_eq_true_eq]
      intro same
      exact closed (same ▸ member)
    have stops : ∀ c ∈ (')' :: rest).head?, decide (c ≠ ')') = false := by rintro c ⟨⟩; rfl
    obtain ⟨taken, left⟩ := takeWhile_dropWhile_append inside stops
    have none : readPosition? ('(' :: (key ++ ')' :: rest)) = none :=
      readPosition?_none (by rintro c ⟨⟩; rfl)
    obtain ⟨c, key, rfl⟩ := List.exists_cons_of_ne_nil nonempty
    simp only [List.cons_append, List.append_assoc, List.nil_append] at *
    simp only [readAddress, none, taken, left]

/-- An address that is read is spelled by the characters in front. -/
theorem readAddress_spells (cs : List Char) :
    ∃ taken, cs = taken ++ (readAddress cs).2 ∧ SpellsAddress taken (readAddress cs).1 := by
  unfold readAddress
  split
  · rename_i position rest read
    obtain ⟨digits, rfl, spelled, nonzero⟩ := readPosition?_spells read
    exact ⟨digits ++ ['$'], by simp, .number spelled nonzero⟩
  · exact ⟨[], rfl, .next⟩
  · split
    · rename_i inner _
      split
      · rename_i c key d rest taken left
        -- The key runs up to the first closing parenthesis.
        have closes : d = ')' := by
          have stops := head?_dropWhile_stops (· ≠ ')') inner d (by rw [left]; rfl)
          simpa using stops
        have closed : ')' ∉ c :: key := by
          rw [← taken]
          intro member
          simpa using List.mem_takeWhile_imp member
        have whole := List.takeWhile_append_dropWhile (p := (· ≠ ')')) (l := inner)
        rw [taken, left, closes] at whole
        exact ⟨'(' :: ((c :: key) ++ [')']), by simp [← whole], .key (by simp) closed⟩
      · exact ⟨[], rfl, .next⟩
    · exact ⟨[], rfl, .next⟩

/-- Reads the fields behind an argument, with the argument left open as the next one. -/
def readFormat? (cs : List Char) : Option (Placeholder × List Char) :=
  let (forceSign, cs) := readFlag '+' cs
  let (pad, cs) := readPad cs
  let (leftJustify, cs) := readFlag '-' cs
  let (width, cs) := readWidth cs
  match readPrecision? cs with
  | none => none
  | some (precision, cs) =>
    match readConversion? cs with
    | none => none
    | some (conversion, rest) =>
      some ({ selector := .next, forceSign, pad, leftJustify, width, precision, conversion }, rest)

/-- A placeholder is an address and then a format, and its key is resolved last. -/
theorem readPlaceholder_eq (cs : List Char) :
    readPlaceholder cs =
      match readFormat? (readAddress cs).2 with
      | none => .error .unexpected
      | some (request, rest) =>
        match (readAddress cs).1.selector with
        | .error fault => .error fault
        | .ok selector => .ok ({ request with selector }, rest) := by
  simp only [readPlaceholder, readFormat?]
  -- Nothing else depends on the address, so the two readers agree case by case.
  cases readPrecision? _ with
  | none => rfl
  | some pair =>
    obtain ⟨precision, rest⟩ := pair
    simp only
    cases readConversion? rest with
    | none => rfl
    | some pair => rfl

namespace Spelling

variable {spelling : Spelling} {request : Placeholder}

/-- What is written from each field on begins with a character that can open that field. -/
theorem SpellsFormat.opens (spelled : spelling.SpellsFormat request) (rest : List Char) :
    Opens opensPrecision (spelling.precision ++ spelling.conversion :: rest) ∧
    Opens opensWidth (spelling.width ++ (spelling.precision ++ spelling.conversion :: rest)) ∧
    Opens opensJustify (spelling.justify ++ (spelling.width ++ (spelling.precision ++
      spelling.conversion :: rest))) ∧
    Opens opensPad (spelling.pad ++ (spelling.justify ++ (spelling.width ++ (spelling.precision ++
      spelling.conversion :: rest)))) ∧
    Opens opensFormat (spelling.format ++ rest) := by
  -- From the conversion backwards, each field opens itself or leaves the beginning to the next.
  have ending : Opens Char.isAlpha (spelling.conversion :: rest) :=
    ⟨_, rfl, spelled.conversion.isAlpha⟩
  have precision := spelled.precision.opens ending
  have width := spelled.width.opens precision
  have justify := spelled.justify.opens width
  have pad := spelled.pad.opens justify
  have sign := spelled.sign.opens pad
  have whole : spelling.format ++ rest = spelling.sign ++ (spelling.pad ++ (spelling.justify ++
      (spelling.width ++ (spelling.precision ++ spelling.conversion :: rest)))) := by
    simp [format]
  rw [whole]
  exact ⟨precision, width, justify, pad, sign⟩

/-- The fields behind an argument are read as they are spelled, whatever stands behind them. -/
theorem SpellsFormat.read (spelled : spelling.SpellsFormat request) (zeroPads : spelling.ZeroPads)
    (rest : List Char) :
    readFormat? (spelling.format ++ rest) = some ({ request with selector := .next }, rest) := by
  obtain ⟨precision, width, justify, pad, _⟩ := spelled.opens rest
  -- Without a pad, a width right behind the sign has no leading zero to be taken for one.
  have noZero : spelling.pad = [] → (spelling.justify ++ (spelling.width ++
      (spelling.precision ++ spelling.conversion :: rest))).head? ≠ some '0' := by
    intro noPad first
    -- A mark would stand before the zero, and without a mark the width is next.
    cases marked : request.leftJustify with
    | true =>
      have written : spelling.justify = ['-'] := by simpa [SpellsFlag, marked] using spelled.justify
      simp [written] at first
    | false =>
      have none : spelling.justify = [] := by simpa [SpellsFlag, marked] using spelled.justify
      have nonzero := zeroPads noPad none
      rw [none, List.nil_append, List.head?_append] at first
      -- A missing width leaves the beginning to a point or a letter.
      cases begins : spelling.width.head? with
      | none =>
        rw [begins, Option.none_or] at first
        exact precision.head?_ne _ rfl first
      | some c =>
        rw [begins, Option.some_or] at first
        exact nonzero (begins.trans first)
  -- Each reader stops where the next field or one behind it begins.
  have sign := readFlag_append spelled.sign (pad.head?_ne '+' rfl)
  have padded := readPad_append spelled.pad fun noPad =>
    ⟨noZero noPad, justify.head?_ne '\x27' rfl⟩
  have justified := readFlag_append spelled.justify (width.head?_ne '-' rfl)
  have wide := readWidth_append spelled.width precision
  have ending : Opens Char.isAlpha (spelling.conversion :: rest) :=
    ⟨_, rfl, spelled.conversion.isAlpha⟩
  have precise := readPrecision?_append spelled.precision ending
  have converted : readConversion? (spelling.conversion :: rest) =
      some (request.conversion, rest) := readConversion?_cons spelled.conversion
  simp [readFormat?, format, sign, padded, justified, wide, precise, converted]

/-- Fields behind an argument that are read are spelled by the characters in front. -/
theorem readFormat?_spells {cs rest : List Char} (read : readFormat? cs = some (request, rest)) :
    request.selector = .next ∧ ∀ address, ∃ spelling : Spelling, spelling.address = address ∧
      cs = spelling.format ++ rest ∧ spelling.SpellsFormat request ∧ spelling.ZeroPads := by
  -- Each reader splits off the characters of its field.
  obtain ⟨sign, signed, spellsSign⟩ := readFlag_spells '+' cs
  obtain ⟨pad, padded, spellsPad, zeroPads⟩ := readPad_spells (readFlag '+' cs).2
  obtain ⟨justify, justified, spellsJustify⟩ := readFlag_spells '-' (readPad (readFlag '+' cs).2).2
  obtain ⟨width, wide, spellsWidth⟩ :=
    readWidth_spells (readFlag '-' (readPad (readFlag '+' cs).2).2).2
  simp only [readFormat?] at read
  split at read
  · contradiction
  · rename_i precision precise
    obtain ⟨point, pointed, spellsPrecision⟩ := readPrecision?_spells precise
    split at read
    · contradiction
    · rename_i conversion converted
      obtain ⟨c, rfl, spellsConversion⟩ := readConversion?_spells converted
      cases read
      refine ⟨rfl, fun address => ⟨⟨address, sign, pad, justify, width, point, c⟩, rfl, ?_,
        ⟨spellsSign, spellsPad, spellsJustify, spellsWidth, spellsPrecision, spellsConversion⟩, ?_⟩⟩
      · simp only [format, List.append_assoc, List.singleton_append]
        rw [← pointed, ← wide, ← justified, ← padded, ← signed]
      · -- A width that begins with a zero would begin the text that the pad is read from.
        intro noPad noJustify first
        refine zeroPads noPad ?_
        simp only at noPad noJustify first
        rw [padded, justified, wide, noPad, noJustify, List.nil_append, List.nil_append,
          List.head?_append, first, Option.some_or]

/-- The number of an argument is no format: its dollar sign asks for no conversion. -/
theorem readFormat?_position {cs more : List Char} {position : Nat}
    (read : readPosition? cs = some (position, '$' :: more)) : readFormat? cs = none := by
  obtain ⟨digits, rfl, number, nonzero⟩ := readPosition?_spells read
  -- The digits begin with neither a mark nor a quote, and their first one is no zero.
  have first : ∀ mark : Char, mark.isDigit = false →
      (digits ++ '$' :: more).head? ≠ some mark := by
    intro mark outside begins
    obtain ⟨d, digits, rfl⟩ := List.exists_cons_of_ne_nil number.nonempty
    cases begins
    exact absurd (number.digits mark (by simp)) (by simp [outside])
  have noZero : (digits ++ '$' :: more).head? ≠ some '0' := by
    obtain ⟨d, digits, rfl⟩ := List.exists_cons_of_ne_nil number.nonempty
    exact nonzero
  -- All optional fields in front are missing, and the digits are read as a width.
  have sign : readFlag '+' (digits ++ '$' :: more) = (false, digits ++ '$' :: more) :=
    readFlag_missing (first '+' rfl)
  have pad : readPad (digits ++ '$' :: more) = (none, digits ++ '$' :: more) :=
    readPad_append .missing fun _ => ⟨noZero, first '\x27' rfl⟩
  have justify : readFlag '-' (digits ++ '$' :: more) = (false, digits ++ '$' :: more) :=
    readFlag_missing (first '-' rfl)
  have width : readNumber? (digits ++ '$' :: more) = some (position, '$' :: more) :=
    readNumber?_append number (by rintro c ⟨⟩; rfl)
  have dollar : readConversion? ('$' :: more) = none := rfl
  simp [readFormat?, sign, pad, justify, readWidth, width, readPrecision?, dollar]

/-- An address in front of a format is read as it is spelled. -/
theorem SpellsFormat.readAddress (spelled : spelling.SpellsFormat request)
    (zeroPads : spelling.ZeroPads) {cs : List Char} {address : Address}
    (addressed : SpellsAddress cs address) (rest : List Char) :
    readAddress (cs ++ (spelling.format ++ rest)) = (address, spelling.format ++ rest) := by
  cases addressed with
  | next =>
    rw [List.nil_append]
    refine readAddress_next ((spelled.opens rest).2.2.2.2.head?_ne _ rfl) ?_
    -- A number before a dollar sign leaves no format, but there is one.
    intro position more read
    have nothing := readFormat?_position read
    rw [spelled.read zeroPads] at nothing
    contradiction
  | number number nonzero => exact readAddress_append (.number number nonzero) (by simp) _
  | key nonempty closed => exact readAddress_append (.key nonempty closed) (by simp) _

end Spelling

/-- A number keeps its value without a leading zero, unless no digit is left. -/
theorem SpellsNumber.tail {digits : List Char} {number : Nat}
    (spelled : SpellsNumber ('0' :: digits) number) :
    SpellsWidth digits (if digits = [] then none else some number) := by
  -- The zero in front does not count, and without it there may be no number.
  split
  · rename_i empty
    subst empty
    exact .missing
  · rename_i nonempty
    refine .digits ⟨nonempty, fun c member => spelled.digits c (by simp [member]), ?_,
      spelled.bounded⟩
    rw [← spelled.value, Nat.ofDigitChars_cons]
    rfl

/-- Fields behind an argument can be spelled by the same characters with a zero that pads. -/
theorem Spelling.SpellsFormat.canonical {spelling : Spelling} {request : Placeholder}
    (format : spelling.SpellsFormat request) :
    ∃ (other : Spelling) (request' : Placeholder), other.text = spelling.text ∧
      other.address = spelling.address ∧ other.SpellsFormat request' ∧ other.ZeroPads ∧
      request'.selector = request.selector := by
  -- Only a width directly behind the sign with a leading zero is read differently.
  by_cases zeroPads : spelling.ZeroPads
  · exact ⟨spelling, request, rfl, rfl, format, zeroPads, rfl⟩
  · -- The leading zero of the width becomes the pad.
    simp only [Spelling.ZeroPads, Classical.not_imp, Classical.not_not] at zeroPads
    obtain ⟨noPad, noJustify, zero⟩ := zeroPads
    obtain ⟨digits, wide⟩ : ∃ digits, spelling.width = '0' :: digits :=
      List.head?_eq_some_iff.mp zero
    have width : SpellsWidth ('0' :: digits) request.width := wide ▸ format.width
    generalize request.width = asked at width
    cases width with
    | digits number =>
      rename_i width
      refine ⟨{ spelling with pad := ['0'], width := digits },
        { request with pad := some .zero, width := if digits = [] then none else some width },
        ?_, rfl, ?_, ?_, rfl⟩
      · simp [Spelling.text, Spelling.format, noPad, noJustify, wide]
      · exact ⟨format.sign, .zero, format.justify, number.tail, format.precision,
          format.conversion⟩
      · simp [Spelling.ZeroPads]

/-- Every form of a placeholder can be read with a zero that pads wherever it can. -/
theorem MaySpell.canonical {cs : List Char} {request : Placeholder} (form : MaySpell cs request) :
    ∃ request', SpellsPlaceholder cs request' ∧ request'.selector = request.selector := by
  obtain ⟨spelling, rfl, selector, format⟩ := form
  obtain ⟨other, request', text, address, format, zeroPads, same⟩ := format.canonical
  -- The argument is spelled by the same characters.
  refine ⟨request', ⟨other, text.symm, ⟨?_, format⟩, zeroPads⟩, same⟩
  rw [address, same]
  exact selector

/-- A placeholder is read where it is spelled, whatever stands behind it. -/
theorem SpellsPlaceholder.read {cs : List Char} {request : Placeholder}
    (spelled : SpellsPlaceholder cs request) :
    ∃ body, cs = '%' :: body ∧ ∀ rest, readPlaceholder (body ++ rest) = .ok (request, rest) := by
  obtain ⟨spelling, rfl, spells, zeroPads⟩ := spelled
  -- The address is read first, then the format, and last the address is resolved.
  obtain ⟨address, addressed, resolved⟩ := spellsSelector_iff.mp spells.selector
  refine ⟨spelling.address ++ spelling.format, rfl, fun rest => ?_⟩
  rw [List.append_assoc, readPlaceholder_eq, spells.format.readAddress zeroPads addressed rest]
  simp [spells.format.read zeroPads rest, resolved]

/-- A placeholder that is read is spelled by the characters in front. -/
theorem readPlaceholder_spells {cs rest : List Char} {request : Placeholder}
    (read : readPlaceholder cs = .ok (request, rest)) :
    ∃ body, cs = body ++ rest ∧ SpellsPlaceholder ('%' :: body) request := by
  rw [readPlaceholder_eq] at read
  obtain ⟨taken, addressed, spellsAddress⟩ := readAddress_spells cs
  split at read
  · contradiction
  · rename_i open_ more formatted
    split at read
    · contradiction
    · rename_i selector resolved
      cases read
      -- The characters of the address and those of the format make up the placeholder.
      obtain ⟨_, formats⟩ := Spelling.readFormat?_spells formatted
      obtain ⟨spelling, rfl, written, format, zeroPads⟩ := formats taken
      refine ⟨spelling.address ++ spelling.format, ?_, spelling, rfl, ⟨?_, ?_⟩, zeroPads⟩
      · rw [List.append_assoc, ← written, ← addressed]
      · exact spellsSelector_iff.mpr ⟨_, spellsAddress, resolved⟩
      · exact ⟨format.sign, format.pad, format.justify, format.width, format.precision,
          format.conversion⟩

end TextTemplate
