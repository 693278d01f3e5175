import TextTemplate.Proofs.Template.Path

/-! Each field of a placeholder is read exactly where it is spelled.

A field that may be missing is told from what follows by its first character. -/

namespace TextTemplate

/-- Characters begin with one of a class. -/
def Opens (p : Char → Bool) (cs : List Char) : Prop :=
  ∃ c ∈ cs.head?, p c

/-- Whether a precision or what follows it can begin with a character. -/
def opensPrecision (c : Char) : Bool :=
  c = '.' || c.isAlpha

/-- Whether a width or what follows it can begin with a character. -/
def opensWidth (c : Char) : Bool :=
  c.isDigit || opensPrecision c

/-- Whether a left-justifying mark or what follows it can begin with a character. -/
def opensJustify (c : Char) : Bool :=
  c = '-' || opensWidth c

/-- Whether a pad or what follows it can begin with a character. -/
def opensPad (c : Char) : Bool :=
  c = '0' || c = '\x27' || opensJustify c

/-- Whether the fields behind an argument can begin with a character. -/
def opensFormat (c : Char) : Bool :=
  c = '+' || opensPad c

/-- Characters that begin with one of a class begin with none outside it. -/
theorem Opens.head?_ne {p : Char → Bool} {cs : List Char} (opens : Opens p cs) (mark : Char)
    (outside : p mark = false) : cs.head? ≠ some mark := by
  intro first
  -- The first character is in the class, and the mark is not.
  obtain ⟨c, begins, inside⟩ := opens
  rw [first] at begins
  cases begins
  simp [outside] at inside

/-- Characters that begin with one of a class stop another class that has none in common. -/
theorem Opens.stops {p q : Char → Bool} {cs : List Char} (opens : Opens p cs)
    (apart : ∀ c, p c → q c = false) : ∀ c ∈ cs.head?, q c = false := by
  intro c first
  obtain ⟨d, begins, inside⟩ := opens
  -- There is only one first character.
  rw [Option.mem_def.mp first] at begins
  cases begins
  exact apart c inside

/-- Characters in front of others begin with their own class or leave the beginning to those. -/
theorem Opens.append {p q : Char → Bool} {front back : List Char} (next : Opens p back)
    (own : ∀ c ∈ front.head?, q c) (wider : ∀ c, p c → q c) : Opens q (front ++ back) := by
  -- An empty front leaves the beginning to the back.
  cases front with
  | nil =>
    obtain ⟨c, begins, inside⟩ := next
    exact ⟨c, begins, wider c inside⟩
  | cons c front => exact ⟨c, rfl, own c rfl⟩

/-- Letters are no digits. -/
theorem isDigit_of_isAlpha {c : Char} (letter : c.isAlpha) : c.isDigit = false := by
  -- The code points of letters lie above those of digits.
  delta Char.isAlpha Char.isUpper Char.isLower at letter
  grind [Char.isDigit]

/-- No digit can begin a precision or what follows it. -/
theorem isDigit_of_opensPrecision {c : Char} (opens : opensPrecision c) : c.isDigit = false := by
  simp only [opensPrecision, Bool.or_eq_true, decide_eq_true_eq] at opens
  -- The point is no digit, and neither is a letter.
  rcases opens with rfl | letter
  · rfl
  · exact isDigit_of_isAlpha letter

/-- A character asks for a conversion exactly when it is read as one. -/
theorem ofChar?_eq_some_iff {c : Char} {conversion : Conversion} :
    Conversion.ofChar? c = some conversion ↔ SpellsConversion c conversion := by
  constructor
  · intro known
    -- Each character that is known belongs to the conversion it is known for.
    unfold Conversion.ofChar? at known
    split at known <;> cases known <;> simp [SpellsConversion, Conversion.char]
  · rintro (rfl | ⟨rfl, rfl⟩)
    · -- Each conversion is read back from its own character.
      cases conversion <;> rfl
    · rfl

/-- Conversions are asked for by letters. -/
theorem SpellsConversion.isAlpha {c : Char} {conversion : Conversion}
    (spelled : SpellsConversion c conversion) : c.isAlpha := by
  rcases spelled with rfl | ⟨rfl, _⟩
  · cases conversion <;> rfl
  · rfl

/-- A precision begins with a point, or leaves the beginning to a letter. -/
theorem SpellsPrecision.opens {cs rest : List Char} {precision : Option Nat}
    (spelled : SpellsPrecision cs precision) (next : Opens Char.isAlpha rest) :
    Opens opensPrecision (cs ++ rest) := by
  refine next.append ?_ (fun c letter => by simp [opensPrecision, letter])
  -- A precision that is there begins with its point.
  cases spelled <;> simp [opensPrecision]

/-- A width begins with a digit, or leaves the beginning to a precision. -/
theorem SpellsWidth.opens {cs rest : List Char} {width : Option Nat}
    (spelled : SpellsWidth cs width) (next : Opens opensPrecision rest) :
    Opens opensWidth (cs ++ rest) := by
  refine next.append ?_ (fun c opens => by simp [opensWidth, opens])
  -- A width that is there begins with a digit.
  intro c first
  cases spelled with
  | missing => simp at first
  | digits number => simp [opensWidth, number.digits c (List.mem_of_mem_head? first)]

/-- A mark begins with itself, or leaves the beginning to what follows. -/
theorem SpellsFlag.opens {mark : Char} {cs rest : List Char} {set : Bool} {p : Char → Bool}
    (spelled : SpellsFlag mark cs set) (next : Opens p rest) :
    Opens (fun c => c = mark || p c) (cs ++ rest) := by
  refine next.append ?_ (fun c opens => by simp [opens])
  -- A mark that is set is the first character.
  rw [spelled]
  cases set <;> simp

/-- A pad begins with a zero or a quote, or leaves the beginning to what follows. -/
theorem SpellsPad.opens {cs rest : List Char} {pad : Option Pad} (spelled : SpellsPad cs pad)
    (next : Opens opensJustify rest) : Opens opensPad (cs ++ rest) := by
  refine next.append ?_ (fun c opens => by simp [opensPad, opens])
  -- A pad that is there begins with a zero or a quote.
  cases spelled <;> simp [opensPad]

/-- A conversion is read where its character stands. -/
theorem readConversion?_cons {c : Char} {rest : List Char} {conversion : Conversion}
    (spelled : SpellsConversion c conversion) :
    readConversion? (c :: rest) = some (conversion, rest) := by
  simp [readConversion?, ofChar?_eq_some_iff.mpr spelled]

/-- A conversion that is read is asked for by the first character. -/
theorem readConversion?_spells {cs rest : List Char} {conversion : Conversion}
    (read : readConversion? cs = some (conversion, rest)) :
    ∃ c, cs = c :: rest ∧ SpellsConversion c conversion := by
  -- A conversion is one character that names it.
  cases cs with
  | nil => simp [readConversion?] at read
  | cons c cs =>
    simp only [readConversion?, Option.map_eq_some_iff, Prod.mk.injEq] at read
    obtain ⟨found, known, rfl, rfl⟩ := read
    exact ⟨c, rfl, ofChar?_eq_some_iff.mp known⟩

/-- A letter stands behind a precision, so the precision is read in full. -/
theorem readPrecision?_append {cs rest : List Char} {precision : Option Nat}
    (spelled : SpellsPrecision cs precision) (next : Opens Char.isAlpha rest) :
    readPrecision? (cs ++ rest) = some (precision, rest) := by
  cases spelled with
  | missing =>
    -- Without a point in front, the precision is missing.
    have absent := next.head?_ne '.' rfl
    cases rest with
    | nil => rfl
    | cons c rest =>
      unfold readPrecision?
      split
      · simp_all
      · rfl
  | digits number =>
    -- The digits end where the letter stands.
    have read := readNumber?_append number (next.stops fun _ => isDigit_of_isAlpha)
    simp [readPrecision?, read]

/-- A precision that is read is spelled by the characters in front. -/
theorem readPrecision?_spells {cs rest : List Char} {precision : Option Nat}
    (read : readPrecision? cs = some (precision, rest)) :
    ∃ taken, cs = taken ++ rest ∧ SpellsPrecision taken precision := by
  unfold readPrecision? at read
  split at read
  · -- Behind a point the number must be there.
    simp only [Option.map_eq_some_iff, Prod.mk.injEq, Prod.exists] at read
    obtain ⟨value, more, number, rfl, rfl⟩ := read
    obtain ⟨digits, rfl, spelled, _⟩ := readNumber?_spells number
    exact ⟨'.' :: digits, rfl, .digits spelled⟩
  · cases read
    exact ⟨[], rfl, .missing⟩

/-- No digit stands behind a width, so the width is read in full. -/
theorem readWidth_append {cs rest : List Char} {width : Option Nat}
    (spelled : SpellsWidth cs width) (next : Opens opensPrecision rest) :
    readWidth (cs ++ rest) = (width, rest) := by
  -- Neither a point nor a letter goes on with the digits.
  have stops := next.stops fun _ => isDigit_of_opensPrecision
  cases spelled with
  | missing => simp [readWidth, readNumber?_none stops]
  | digits number => simp [readWidth, readNumber?_append number stops]

/-- A width that is read is spelled by the characters in front. -/
theorem readWidth_spells (cs : List Char) :
    ∃ taken, cs = taken ++ (readWidth cs).2 ∧ SpellsWidth taken (readWidth cs).1 := by
  -- Nothing is read where no number stands.
  unfold readWidth
  split
  · rename_i read
    obtain ⟨digits, rfl, spelled, _⟩ := readNumber?_spells read
    exact ⟨digits, rfl, .digits spelled⟩
  · exact ⟨[], rfl, .missing⟩

/-- A mark is missed where another character stands. -/
theorem readFlag_missing {mark : Char} {cs : List Char} (other : cs.head? ≠ some mark) :
    readFlag mark cs = (false, cs) := by
  -- Another character is left where it is.
  cases cs with
  | nil => rfl
  | cons c cs =>
    have differ : c ≠ mark := by simpa using other
    simp [readFlag, differ]

/-- A mark is read where it stands, and is missed where another character stands. -/
theorem readFlag_append {mark : Char} {cs rest : List Char} {set : Bool}
    (spelled : SpellsFlag mark cs set) (next : rest.head? ≠ some mark) :
    readFlag mark (cs ++ rest) = (set, rest) := by
  rw [SpellsFlag] at spelled
  subst spelled
  -- A mark that is not set is not there, and nothing else is taken for it.
  cases set with
  | true => simp [readFlag]
  | false => exact readFlag_missing next

/-- A mark that is read is the character in front. -/
theorem readFlag_spells (mark : Char) (cs : List Char) :
    ∃ taken, cs = taken ++ (readFlag mark cs).2 ∧ SpellsFlag mark taken (readFlag mark cs).1 := by
  cases cs with
  | nil => exact ⟨[], rfl, rfl⟩
  | cons c cs =>
    -- The mark is taken where it stands in front.
    by_cases marked : c = mark
    · exact ⟨[c], by simp [readFlag, marked], by simp [readFlag, SpellsFlag, marked]⟩
    · exact ⟨[], by simp [readFlag, marked], by simp [readFlag, SpellsFlag, marked]⟩

/-- A pad is read where it stands, and is missed where no zero and no quote stands. -/
theorem readPad_append {cs rest : List Char} {pad : Option Pad} (spelled : SpellsPad cs pad)
    (next : cs = [] → rest.head? ≠ some '0' ∧ rest.head? ≠ some '\x27') :
    readPad (cs ++ rest) = (pad, rest) := by
  cases spelled with
  | missing =>
    -- Only a zero or a quote would be taken for a pad.
    obtain ⟨noZero, noQuote⟩ := next rfl
    rw [List.nil_append]
    unfold readPad
    split
    · exact absurd rfl noZero
    · exact absurd rfl noQuote
    · rfl
  | zero => rfl
  | quoted other => simp [readPad, other]

/-- A pad that is read is spelled by the characters in front, and a zero is always a pad. -/
theorem readPad_spells (cs : List Char) :
    ∃ taken, cs = taken ++ (readPad cs).2 ∧ SpellsPad taken (readPad cs).1 ∧
      (taken = [] → cs.head? ≠ some '0') := by
  unfold readPad
  split
  · exact ⟨['0'], rfl, .zero, by simp⟩
  · rename_i c rest
    split
    · -- A dollar sign behind the quote leaves both where they are.
      exact ⟨[], rfl, .missing, by simp⟩
    · rename_i other
      exact ⟨['\x27', c], rfl, .quoted other, by simp⟩
  · rename_i noZero _
    -- A zero in front would have been read.
    refine ⟨[], rfl, .missing, fun _ first => ?_⟩
    cases cs with
    | nil => simp at first
    | cons c cs =>
      cases first
      exact noZero cs rfl

end TextTemplate
