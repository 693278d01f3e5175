import TextTemplate.Template.Error

/-! Templates are read from left to right, one piece at a time. -/

namespace TextTemplate

/-- Numbers in a template stay below this bound. -/
def numberBound : Nat := 0x10000000000000000

/-- Reads decimal digits whose number is below the bound. -/
def readNumber? (cs : List Char) : Option (Nat × List Char) :=
  let digits := cs.takeWhile Char.isDigit
  let number := Nat.ofDigitChars 10 digits 0
  if digits ≠ [] ∧ number < numberBound then some (number, cs.dropWhile Char.isDigit) else none

/-- Whether a character can begin a name. -/
def isNameStart (c : Char) : Bool :=
  c.isAlpha || c = '_'

/-- Whether a character can continue a name. -/
def isNameChar (c : Char) : Bool :=
  c.isAlphanum || c = '_'

/-- Reads a name of ASCII letters, digits and underscores that does not begin with a digit. -/
def readName? : List Char → Option (String × List Char)
  | [] => none
  | c :: cs =>
    if isNameStart c then
      some (String.ofList (c :: cs.takeWhile isNameChar), cs.dropWhile isNameChar)
    else none

/-- What follows leading characters of one class is no longer than the whole. -/
theorem length_dropWhile_le {p : Char → Bool} (cs : List Char) :
    (cs.dropWhile p).length ≤ cs.length :=
  (List.dropWhile_sublist p).length_le

/-- A number leaves no more characters than there were. -/
theorem readNumber?_length {cs rest : List Char} {number : Nat}
    (read : readNumber? cs = some (number, rest)) : rest.length ≤ cs.length := by
  -- The rest is the text without its leading digits.
  simp only [readNumber?] at read
  split at read
  · cases read
    exact length_dropWhile_le cs
  · contradiction

/-- A name takes at least one character. -/
theorem readName?_length {cs rest : List Char} {name : String}
    (read : readName? cs = some (name, rest)) : rest.length < cs.length := by
  -- The first character is always part of the name.
  cases cs with
  | nil => simp [readName?] at read
  | cons c cs =>
    simp only [readName?] at read
    split at read
    · cases read
      exact Nat.lt_succ_of_le (length_dropWhile_le cs)
    · contradiction

/-- Reads the steps of a path behind its first name, up to the end of the text. -/
def readSteps? (cs : List Char) : Option (List Segment) :=
  match cs with
  | [] => some []
  | '.' :: rest =>
    match named : readName? rest with
    | some (name, more) =>
      have := readName?_length named
      (readSteps? more).map (.field name :: ·)
    | none => none
  | '[' :: rest =>
    match numbered : readNumber? rest with
    | some (index, ']' :: more) =>
      have := readNumber?_length numbered
      (readSteps? more).map (.element index :: ·)
    | _ => none
  | _ => none
termination_by cs.length
decreasing_by all_goals simp only [List.length_cons] at *; omega

/-- Reads a path: a name, and then steps to fields and elements. -/
def readPath? (cs : List Char) : Option (List Segment) := do
  let (name, rest) ← readName? cs
  let steps ← readSteps? rest
  return .field name :: steps

/-- The argument that a placeholder names, before a key is read as a path. -/
inductive Address where
  | next
  | number (position : Nat)
  | key (text : List Char)
  deriving DecidableEq, Repr

/-- Reads the number of an argument, which begins with no zero. -/
def readPosition? : List Char → Option (Nat × List Char)
  | '0' :: _ => none
  | cs => readNumber? cs

/-- Reads an argument number before a dollar sign or a key in parentheses, where one stands. -/
def readAddress (cs : List Char) : Address × List Char :=
  match readPosition? cs with
  | some (position, '$' :: rest) => (.number position, rest)
  -- Without a dollar sign, the digits belong to the format.
  | some _ => (.next, cs)
  | none =>
    match cs with
    | '(' :: inner =>
      match inner.takeWhile (· ≠ ')'), inner.dropWhile (· ≠ ')') with
      | c :: key, _ :: rest => (.key (c :: key), rest)
      | _, _ => (.next, cs)
    | _ => (.next, cs)

/-- Reads a mark that may be missing. -/
def readFlag (mark : Char) : List Char → Bool × List Char
  | [] => (false, [])
  | c :: cs => if c = mark then (true, cs) else (false, c :: cs)

/-- Reads a zero or a quoted character as pad, where one stands. -/
def readPad : List Char → Option Pad × List Char
  | '0' :: rest => (some .zero, rest)
  | '\x27' :: c :: rest =>
    -- A dollar sign cannot be quoted.
    if c = '$' then (none, '\x27' :: c :: rest) else (some (.character c), rest)
  | cs => (none, cs)

/-- Reads a width, where one stands. -/
def readWidth (cs : List Char) : Option Nat × List Char :=
  match readNumber? cs with
  | some (width, rest) => (some width, rest)
  | none => (none, cs)

/-- Reads a precision behind a point, where a point stands. -/
def readPrecision? : List Char → Option (Option Nat × List Char)
  | '.' :: rest => (readNumber? rest).map fun (precision, more) => (some precision, more)
  | cs => some (none, cs)

/-- Reads the character that ends a placeholder. -/
def readConversion? : List Char → Option (Conversion × List Char)
  | [] => none
  | c :: cs => (Conversion.ofChar? c).map (·, cs)

/-- A reason why a percent sign begins no placeholder. -/
inductive PlaceholderFault where
  | unexpected
  | keyPath (key : List Char)
  deriving DecidableEq, Repr

/-- The selector that an address stands for. -/
def Address.selector : Address → Except PlaceholderFault Selector
  | .next => .ok .next
  | .number position => .ok (.number position)
  | .key text =>
    match readPath? text with
    | some segments => .ok (.path segments)
    | none => .error (.keyPath text)

/-- Reads a placeholder from behind its percent sign.

A key is read as a path last, so a malformed end hides a malformed key. -/
def readPlaceholder (cs : List Char) : Except PlaceholderFault (Placeholder × List Char) :=
  let (address, cs) := readAddress cs
  let (forceSign, cs) := readFlag '+' cs
  let (pad, cs) := readPad cs
  let (leftJustify, cs) := readFlag '-' cs
  let (width, cs) := readWidth cs
  match readPrecision? cs with
  | none => .error .unexpected
  | some (precision, cs) =>
    match readConversion? cs with
    | none => .error .unexpected
    | some (conversion, rest) =>
      -- Everything but the key is fine here.
      match address.selector with
      | .error fault => .error fault
      | .ok selector =>
        .ok ({ selector, forceSign, pad, leftJustify, width, precision, conversion }, rest)

/-- An address leaves no more characters than there were. -/
theorem readAddress_length (cs : List Char) : (readAddress cs).2.length ≤ cs.length := by
  -- Only a whole number with its sign or a whole key with its parentheses is taken.
  unfold readAddress
  split
  · rename_i position rest read
    have shorter : ('$' :: rest).length ≤ cs.length := by
      unfold readPosition? at read
      split at read
      · contradiction
      · exact readNumber?_length read
    simp at shorter ⊢
    omega
  · exact Nat.le_refl _
  · split
    · rename_i inner _
      split
      · rename_i c key d rest _ dropped
        have shorter := length_dropWhile_le (p := (· ≠ ')')) inner
        rw [dropped] at shorter
        simp at shorter ⊢
        omega
      · exact Nat.le_refl _
    · exact Nat.le_refl _

/-- A flag leaves no more characters than there were. -/
theorem readFlag_length (mark : Char) (cs : List Char) :
    (readFlag mark cs).2.length ≤ cs.length := by
  -- Either the mark is taken or nothing is.
  cases cs with
  | nil => simp [readFlag]
  | cons c cs => by_cases marked : c = mark <;> simp [readFlag, marked]

/-- A pad leaves no more characters than there were. -/
theorem readPad_length (cs : List Char) : (readPad cs).2.length ≤ cs.length := by
  -- A zero takes one character, and a quoted pad two.
  unfold readPad
  split
  · simp
  · split <;> simp; omega
  · exact Nat.le_refl _

/-- A width leaves no more characters than there were. -/
theorem readWidth_length (cs : List Char) : (readWidth cs).2.length ≤ cs.length := by
  -- A missing width takes nothing.
  unfold readWidth
  split
  · rename_i read
    exact readNumber?_length read
  · exact Nat.le_refl _

/-- A precision leaves no more characters than there were. -/
theorem readPrecision?_length {cs rest : List Char} {precision : Option Nat}
    (read : readPrecision? cs = some (precision, rest)) : rest.length ≤ cs.length := by
  -- The number stands behind the point, which is taken with it.
  unfold readPrecision? at read
  split at read
  · rename_i inner
    cases number : readNumber? inner with
    | none => simp [number] at read
    | some pair =>
      obtain ⟨value, more⟩ := pair
      simp [number] at read
      have shorter := readNumber?_length number
      rw [← read.2]
      exact Nat.le_succ_of_le shorter
  · cases read
    exact Nat.le_refl _

/-- A conversion takes one character. -/
theorem readConversion?_length {cs rest : List Char} {conversion : Conversion}
    (read : readConversion? cs = some (conversion, rest)) : rest.length < cs.length := by
  -- Nothing is read from the end of a text or from a character that names no conversion.
  cases cs with
  | nil => simp [readConversion?] at read
  | cons c cs =>
    cases known : Conversion.ofChar? c with
    | none => simp [readConversion?, known] at read
    | some found =>
      simp [readConversion?, known] at read
      simp [read.2]

/-- A placeholder takes at least one character behind its percent sign. -/
theorem readPlaceholder_length {cs rest : List Char} {request : Placeholder}
    (read : readPlaceholder cs = .ok (request, rest)) : rest.length < cs.length := by
  -- Each field leaves at most what it was given, and the conversion takes one character.
  unfold readPlaceholder at read
  have address := readAddress_length cs
  have sign := readFlag_length '+' (readAddress cs).2
  have pad := readPad_length (readFlag '+' (readAddress cs).2).2
  have justify := readFlag_length '-' (readPad (readFlag '+' (readAddress cs).2).2).2
  have width := readWidth_length
    (readFlag '-' (readPad (readFlag '+' (readAddress cs).2).2).2).2
  simp only at read
  split at read
  · contradiction
  · rename_i precision afterPrecision precise
    have precision := readPrecision?_length precise
    split at read
    · contradiction
    · rename_i conversion afterConversion converted
      have conversion := readConversion?_length converted
      split at read
      · contradiction
      · cases read
        omega

/-- Reads the pieces of a template from a position on.

The addressing of the placeholders read before is the only one that is still allowed. -/
def readNodes (position : Nat) (addressing : Option Addressing) (cs : List Char) :
    Except ParseError (List Node) :=
  match cs with
  | [] => .ok []
  | '%' :: '%' :: rest =>
    match readNodes (position + 2) addressing rest with
    | .ok nodes => .ok (⟨⟨position, position + 2⟩, .percent⟩ :: nodes)
    | .error error => .error error
  | '%' :: rest =>
    match read : readPlaceholder rest with
    | .error .unexpected => .error (.unexpected position (String.ofList ('%' :: rest)))
    | .error (.keyPath key) => .error (.keyPath (position + 2) (String.ofList key))
    | .ok (request, more) =>
      have := readPlaceholder_length read
      -- The placeholder ends where the rest of the text begins.
      let stop := position + 1 + (byteLength rest - byteLength more)
      let own := request.selector.addressing
      -- The first placeholder fixes the addressing of all others.
      if addressing.any (· ≠ own) then .error (.mixed ⟨position, stop⟩)
      else
        match readNodes stop (some own) more with
        | .ok nodes => .ok (⟨⟨position, stop⟩, .placeholder request⟩ :: nodes)
        | .error error => .error error
  | c :: rest =>
    -- A literal runs up to the next percent sign.
    let text := c :: rest.takeWhile (· ≠ '%')
    let stop := position + byteLength text
    have := length_dropWhile_le (p := (· ≠ '%')) rest
    match readNodes stop addressing (rest.dropWhile (· ≠ '%')) with
    | .ok nodes => .ok (⟨⟨position, stop⟩, .literal (String.ofList text)⟩ :: nodes)
    | .error error => .error error
termination_by cs.length
decreasing_by all_goals simp only [List.length_cons] at *; omega

/-- Reads a template. -/
def Template.parse (source : String) : Except ParseError Template :=
  (readNodes 0 none source.toList).map (⟨source, ·⟩)

end TextTemplate
