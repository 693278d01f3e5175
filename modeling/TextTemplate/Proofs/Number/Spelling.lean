import Mathlib.Data.Option.Basic
import TextTemplate.Number.Reader
import TextTemplate.Proofs.Json.Unambiguous

/-! The spelling of numbers in text: a decimal number has a sign, digits with a point before, among
or behind them, and a power of ten, of which all but one digit may be missing. Reading accepts just
what is spelled in this way. -/

namespace TextTemplate

open Json (IsDigits SpellsInteger SpellsExponent)

/-- Characters are a sign that may be missing, and tell whether it is a minus. -/
inductive SpellsSign : List Char → Bool → Prop where
  | missing : SpellsSign [] false
  | plus : SpellsSign ['+'] false
  | minus : SpellsSign ['-'] true

/-- Characters are the digits before and behind a point, which is missing at most where none stand
behind it. -/
inductive SpellsMantissa : List Char → List Char → List Char → Prop where
  | whole {whole : List Char} : IsDigits whole → SpellsMantissa whole whole []
  | pointed {whole decimals : List Char} : IsDigits whole → (∀ c ∈ decimals, c.isDigit) →
      SpellsMantissa (whole ++ '.' :: decimals) whole decimals
  | decimals {decimals : List Char} : IsDigits decimals →
      SpellsMantissa ('.' :: decimals) [] decimals

/-- Characters are a decimal number. -/
inductive SpellsDecimal : List Char → Literal → Prop where
  | decimal {sign mantissa power whole decimals : List Char} {negative : Bool}
      {exponent : Option Int} : SpellsSign sign negative →
      SpellsMantissa mantissa whole decimals → SpellsExponent power exponent →
      SpellsDecimal (sign ++ (mantissa ++ power))
        ⟨negative, Nat.ofDigitChars 10 (whole ++ decimals) 0, exponent.getD 0 - decimals.length⟩

/-- Characters are infinity by its full name. -/
inductive SpellsInfinity : List Char → Bool → Prop where
  | infinity {sign : List Char} {negative : Bool} : SpellsSign sign negative →
      SpellsInfinity (sign ++ "Infinity".toList) negative

/-- Reads the decimals behind a point, if there is one, and leaves what follows them. -/
def readDecimals (cs : List Char) : List Char × List Char :=
  match cs with
  | '.' :: rest => (rest.takeWhile Char.isDigit, rest.dropWhile Char.isDigit)
  | _ => ([], cs)

variable {cs rest sign mantissa power whole decimals : List Char} {negative : Bool}

/-- A text is a sign and what is left behind it. -/
theorem exists_sign (cs : List Char) :
    ∃ sign, SpellsSign sign (readSign cs).1 ∧ cs = sign ++ (readSign cs).2 := by
  -- Reading takes off the sign that it finds, or none.
  unfold readSign
  split
  · exact ⟨['-'], .minus, rfl⟩
  · exact ⟨['+'], .plus, rfl⟩
  · exact ⟨[], .missing, rfl⟩

/-- A sign is split off in front of what begins with none. -/
theorem SpellsSign.read (spelled : SpellsSign sign negative)
    (unsigned : ∀ c ∈ rest.head?, c ≠ '-' ∧ c ≠ '+') :
    readSign (sign ++ rest) = (negative, rest) := by
  cases spelled with
  -- Without a sign, what begins with none is left as it is.
  | missing =>
    rw [List.nil_append]
    unfold readSign
    split
    · exact absurd rfl (unsigned '-' rfl).1
    · exact absurd rfl (unsigned '+' rfl).2
    · rfl
  | plus => rfl
  | minus => rfl

/-- A whole text is read as an integer just where digits with a sign spell it. -/
theorem readInteger?_eq_some_iff {n : Int} : readInteger? cs = some n ↔ SpellsInteger cs n := by
  -- The sign is split off in front, and what is left are digits and at least one.
  refine ⟨fun read => ?_, SpellsInteger.read⟩
  obtain ⟨sign, spelled, split⟩ := exists_sign cs
  simp only [readInteger?, Option.ite_none_right_eq_some, Option.some.injEq] at read
  obtain ⟨⟨nonempty, each⟩, rfl⟩ := read
  generalize readSign cs = parts at *
  obtain ⟨negative, rest⟩ := parts
  subst split
  have digits : IsDigits rest := ⟨nonempty, List.all_eq_true.mp each⟩
  cases spelled with
  | missing => exact .unsigned digits
  | plus => exact .plus digits
  | minus => exact .minus digits

/-- What follows the digits of a number is read as a power of ten just where it spells one. -/
theorem readExponent?_eq_some_iff {n : Int} :
    readExponent? cs = some n ↔ ∃ exponent, SpellsExponent cs exponent ∧ n = exponent.getD 0 := by
  constructor
  -- Nothing is a missing power, and anything else has to begin with the mark of one.
  · intro read
    cases cs with
    | nil => exact ⟨none, .missing, (Option.some.inj read).symm⟩
    | cons mark cs =>
      obtain ⟨marked, integer⟩ := Option.ite_none_right_eq_some.mp read
      exact ⟨some n, .power marked (readInteger?_eq_some_iff.mp integer), rfl⟩
  · rintro ⟨exponent, spelled, rfl⟩
    cases spelled with
    | missing => rfl
    | power mark integer => exact (if_pos mark).trans integer.read

/-- Digits with a point begin with a digit or with the point. -/
theorem SpellsMantissa.head (spelled : SpellsMantissa mantissa whole decimals) :
    ∃ c rest, mantissa = c :: rest ∧ (c.isDigit ∨ c = '.') := by
  -- It begins with the digits in front of the point, or with the point.
  cases spelled with
  | whole digits =>
    obtain ⟨c, rest, split, digit⟩ := digits.head
    exact ⟨c, rest, split, .inl digit⟩
  | pointed digits =>
    obtain ⟨c, rest, rfl, digit⟩ := digits.head
    exact ⟨c, _, rfl, .inl digit⟩
  | decimals => exact ⟨'.', _, rfl, .inr rfl⟩

/-- Digits with a point begin with no sign. -/
theorem SpellsMantissa.unsigned (spelled : SpellsMantissa mantissa whole decimals) :
    ∀ c ∈ (mantissa ++ rest).head?, c ≠ '-' ∧ c ≠ '+' := by
  -- A mantissa begins with a digit or a point, and neither is a sign.
  obtain ⟨first, others, rfl, begins⟩ := spelled.head
  intro c leads
  cases leads
  rcases begins with digit | rfl
  · constructor
    · rintro rfl
      exact absurd digit (by decide)
    · rintro rfl
      exact absurd digit (by decide)
  · decide

/-- The digits before a point and behind it are told apart where neither can go on. -/
theorem SpellsMantissa.read (spelled : SpellsMantissa mantissa whole decimals)
    (stops : ∀ c ∈ rest.head?, c.isDigit = false ∧ c ≠ '.') :
    (mantissa ++ rest).takeWhile Char.isDigit = whole ∧
      readDecimals ((mantissa ++ rest).dropWhile Char.isDigit) = (decimals, rest) := by
  have ends : ∀ c ∈ rest.head?, c.isDigit = false := fun c first => (stops c first).1
  have point : ∀ behind : List Char, ∀ c ∈ ('.' :: behind).head?, c.isDigit = false := by
    rintro behind c first
    cases first
    decide
  -- The leading digits are all those before the point, wherever the point stands.
  cases spelled with
  | whole digits =>
    obtain ⟨taken, dropped⟩ := takeWhile_dropWhile_append digits.digits ends
    refine ⟨taken, ?_⟩
    rw [dropped]
    unfold readDecimals
    split
    · exact absurd rfl (stops '.' rfl).2
    · rfl
  | pointed digits each =>
    obtain ⟨taken, dropped⟩ :=
      takeWhile_dropWhile_append digits.digits (point (decimals ++ rest))
    obtain ⟨inside, behind⟩ := takeWhile_dropWhile_append each ends
    rw [List.append_assoc, List.cons_append, taken, dropped, readDecimals, inside, behind]
    exact ⟨rfl, rfl⟩
  | decimals digits =>
    obtain ⟨inside, behind⟩ := takeWhile_dropWhile_append digits.digits ends
    have none : Char.isDigit '.' = false := by decide
    simp only [List.cons_append, List.takeWhile_cons, List.dropWhile_cons, none, readDecimals,
      inside, behind, Bool.false_eq_true, if_false, and_self]

/-- Leading digits and the decimals behind them are a mantissa unless there are none of either. -/
theorem exists_mantissa (cs : List Char)
    (some : cs.takeWhile Char.isDigit ++ (readDecimals (cs.dropWhile Char.isDigit)).1 ≠ []) :
    ∃ mantissa, SpellsMantissa mantissa (cs.takeWhile Char.isDigit)
        (readDecimals (cs.dropWhile Char.isDigit)).1 ∧
      cs = mantissa ++ (readDecimals (cs.dropWhile Char.isDigit)).2 := by
  have split := (List.takeWhile_append_dropWhile (p := Char.isDigit) (l := cs)).symm
  have each : ∀ c ∈ cs.takeWhile Char.isDigit, c.isDigit := fun _ => List.mem_takeWhile_imp
  generalize cs.takeWhile Char.isDigit = whole at *
  generalize cs.dropWhile Char.isDigit = behind at *
  subst split
  unfold readDecimals at *
  -- Behind the leading digits there may be a point with more digits behind it.
  split at some
  · rename_i rest
    have inside : ∀ c ∈ rest.takeWhile Char.isDigit, c.isDigit := fun _ => List.mem_takeWhile_imp
    have behind := (List.takeWhile_append_dropWhile (p := Char.isDigit) (l := rest)).symm
    generalize rest.takeWhile Char.isDigit = decimals at *
    generalize rest.dropWhile Char.isDigit = power at *
    subst behind
    -- Where the point comes first, digits have to follow it.
    by_cases empty : whole = []
    · subst empty
      exact ⟨'.' :: decimals, .decimals ⟨some, inside⟩, rfl⟩
    · exact ⟨whole ++ '.' :: decimals, .pointed ⟨empty, each⟩ inside, by simp⟩
  · rw [List.append_nil] at some
    exact ⟨whole, .whole ⟨some, each⟩, rfl⟩

/-- A whole text is read as a decimal number just where it spells one. -/
theorem read?_eq_some_iff {literal : Literal} :
    Literal.read? cs = some literal ↔ SpellsDecimal cs literal := by
  have read : Literal.read? cs = some literal ↔ ∃ n,
      readExponent? (readDecimals ((readSign cs).2.dropWhile Char.isDigit)).2 = some n ∧
      (readSign cs).2.takeWhile Char.isDigit ++
        (readDecimals ((readSign cs).2.dropWhile Char.isDigit)).1 ≠ [] ∧
      ⟨(readSign cs).1, Nat.ofDigitChars 10 ((readSign cs).2.takeWhile Char.isDigit ++
        (readDecimals ((readSign cs).2.dropWhile Char.isDigit)).1) 0,
        n - (readDecimals ((readSign cs).2.dropWhile Char.isDigit)).1.length⟩ = literal := by
    simp only [Literal.read?, Option.bind_eq_bind, Option.bind_eq_some_iff, Option.guard_eq_some',
      Option.pure_def, Option.some.injEq, exists_const]
    rfl
  rw [read]
  -- From left to right each part is split off, and from right to left it is found again.
  constructor
  · rintro ⟨n, exponent, some, rfl⟩
    obtain ⟨exponent, power, rfl⟩ := readExponent?_eq_some_iff.mp exponent
    obtain ⟨sign, signed, split⟩ := exists_sign cs
    obtain ⟨mantissa, digits, behind⟩ := exists_mantissa _ some
    have spelled := SpellsDecimal.decimal signed digits power
    rwa [← behind, ← split] at spelled
  · rintro ⟨signed, digits, power⟩
    obtain ⟨whole, decimals⟩ := digits.read power.stops
    rw [signed.read digits.unsigned, whole, decimals]
    refine ⟨_, readExponent?_eq_some_iff.mpr ⟨_, power, rfl⟩, ?_, rfl⟩
    -- One digit at least stands before the point or behind it.
    cases digits with
    | whole digits => exact List.append_ne_nil_of_left_ne_nil digits.nonempty _
    | pointed digits => exact List.append_ne_nil_of_left_ne_nil digits.nonempty _
    | decimals digits => exact digits.nonempty

/-- A number as JSON writes it is a decimal number. -/
theorem Json.SpellsNumeral.decimal {n : Json.Numeral} (spelled : Json.SpellsNumeral cs n) :
    SpellsDecimal cs n.literal := by
  obtain ⟨whole, -, decimals, power⟩ := spelled
  have signed : SpellsSign (minusSign n.negative) n.negative := by
    cases n.negative with
    | false => exact .missing
    | true => exact .minus
  have mantissa : SpellsMantissa (n.whole ++ Json.fraction n.decimals) n.whole n.decimals := by
    -- The point is written just where there are decimals.
    unfold Json.fraction
    split
    · rename_i none
      rw [none, List.append_nil]
      exact .whole whole
    · exact .pointed whole decimals
  have decimal := SpellsDecimal.decimal signed mantissa power
  rwa [List.append_assoc] at decimal

end TextTemplate
