import TextTemplate.Proofs.Json.Grammar
import TextTemplate.Proofs.Text.Leading

/-! A text is the written form of no more than one document. -/

namespace TextTemplate.Json

variable {cs more rest left : List Char}

/-- Digits and what follows them are told apart where no digit follows. -/
theorem digits_unique {digits other : List Char} (each : ∀ c ∈ digits, c.isDigit)
    (also : ∀ c ∈ other, c.isDigit) (stops : ∀ c ∈ rest.head?, c.isDigit = false)
    (halts : ∀ c ∈ left.head?, c.isDigit = false) (same : digits ++ rest = other ++ left) :
    digits = other ∧ rest = left := by
  -- The digits of a text are all that stand in front of its first other character.
  obtain ⟨taken, dropped⟩ := takeWhile_dropWhile_append each stops
  obtain ⟨took, behind⟩ := takeWhile_dropWhile_append also halts
  rw [same] at taken dropped
  exact ⟨taken.symm.trans took, dropped.symm.trans behind⟩

/-- Digits begin with a digit. -/
theorem IsDigits.head (digits : IsDigits cs) : ∃ c tail, cs = c :: tail ∧ c.isDigit := by
  obtain ⟨c, tail, rfl⟩ := List.exists_cons_of_ne_nil digits.nonempty
  exact ⟨c, tail, rfl, digits.digits c List.mem_cons_self⟩

/-- Digits with a sign are split into the two. -/
theorem SpellsInteger.sign {n : Int} (spelled : SpellsInteger cs n) :
    ∃ negative digits, readSign cs = (negative, digits) ∧ IsDigits digits ∧
      n = signedInt negative (Nat.ofDigitChars 10 digits 0) := by
  cases spelled with
  | unsigned digits =>
    obtain ⟨c, tail, rfl, digit⟩ := digits.head
    refine ⟨false, c :: tail, ?_, digits, rfl⟩
    -- A digit is no sign.
    unfold readSign
    split
    · rename_i minus
      cases minus
      exact absurd digit (by decide)
    · rename_i plus
      cases plus
      exact absurd digit (by decide)
    · rfl
  | plus digits => exact ⟨false, _, rfl, digits, rfl⟩
  | minus digits => exact ⟨true, _, rfl, digits, rfl⟩

/-- Digits with a sign are read as an integer. -/
theorem SpellsInteger.read {n : Int} (spelled : SpellsInteger cs n) : readInteger? cs = some n := by
  -- What follows the sign are digits, as the reader asks.
  obtain ⟨negative, digits, sign, each, rfl⟩ := spelled.sign
  simp only [readInteger?, sign]
  exact if_pos ⟨each.nonempty, List.all_eq_true.mpr each.digits⟩

/-- Characters are no more than one power of ten. -/
theorem SpellsExponent.unique {exponent other : Option Int} (spelled : SpellsExponent cs exponent)
    (also : SpellsExponent cs other) : exponent = other := by
  -- A power of ten is missing where nothing is left, and else it is read from its integer.
  cases spelled with
  | missing => cases also with | missing => rfl
  | power mark integer =>
    cases also with
    | power _ another => exact integer.read.symm.trans another.read

/-- A power of ten begins with no digit and no point. -/
theorem SpellsExponent.stops {exponent : Option Int} (spelled : SpellsExponent cs exponent) :
    ∀ c ∈ cs.head?, c.isDigit = false ∧ c ≠ '.' := by
  cases spelled with
  | missing => exact nofun
  | power mark =>
    -- An exponent begins with its letter.
    intro c first
    cases first
    rcases mark with rfl | rfl <;> decide

/-- Decimals and a power of ten begin with no digit. -/
theorem fraction_stops {decimals power : List Char} {exponent : Option Int}
    (spelled : SpellsExponent power exponent) :
    ∀ c ∈ (fraction decimals ++ power).head?, c.isDigit = false := by
  unfold fraction
  -- Without decimals the power comes first, and with them the point does.
  split
  · intro c first
    exact (spelled.stops c first).1
  · intro c first
    cases first
    decide

/-- Decimals and a power of ten are told apart. -/
theorem fraction_unique {decimals power others next : List Char} {exponent other : Option Int}
    (each : ∀ c ∈ decimals, c.isDigit) (also : ∀ c ∈ others, c.isDigit)
    (spelled : SpellsExponent power exponent) (again : SpellsExponent next other)
    (same : fraction decimals ++ power = fraction others ++ next) :
    decimals = others ∧ exponent = other := by
  have point := spelled.stops
  have mark := again.stops
  -- Either both have a point, or one power would begin with it.
  unfold fraction at same
  split at same
  · rename_i none
    split at same
    · rename_i empty
      subst same
      exact ⟨none.trans empty.symm, spelled.unique again⟩
    · obtain rfl : power = '.' :: (others ++ next) := same
      exact absurd rfl (point '.' rfl).2
  · split at same
    · obtain rfl : '.' :: (decimals ++ power) = next := same
      exact absurd rfl (mark '.' rfl).2
    · obtain ⟨decimals, power⟩ := digits_unique each also (fun c first => (point c first).1)
        (fun c first => (mark c first).1) (List.cons.inj same).2
      subst power
      exact ⟨decimals, spelled.unique again⟩

/-- A sign before a digit is told apart from what follows it. -/
theorem minusSign_unique {negative other : Bool} (digits : IsDigits cs) (also : IsDigits more)
    (same : minusSign negative ++ (cs ++ rest) = minusSign other ++ (more ++ left)) :
    negative = other ∧ cs ++ rest = more ++ left := by
  obtain ⟨c, tail, rfl, digit⟩ := digits.head
  obtain ⟨d, behind, rfl, another⟩ := also.head
  -- Where only one has a sign, the other begins with a digit, which is none.
  cases negative with
  | false =>
    cases other with
    | false => exact ⟨rfl, same⟩
    | true =>
      obtain ⟨rfl, -⟩ := List.cons.inj same
      exact absurd digit (by decide)
  | true =>
    cases other with
    | false =>
      obtain ⟨rfl, -⟩ := List.cons.inj same
      exact absurd another (by decide)
    | true => exact ⟨rfl, (List.cons.inj same).2⟩

/-- Characters are no more than one number. -/
theorem SpellsNumeral.unique {n other : Numeral} (spelled : SpellsNumeral cs n)
    (also : SpellsNumeral cs other) : n = other := by
  -- Each field ends where a character comes that it cannot have.
  obtain ⟨whole, -, decimals, power⟩ := spelled
  generalize written : minusSign n.negative ++ _ = cs at also
  obtain ⟨again, -, further, next⟩ := also
  obtain ⟨sign, same⟩ := minusSign_unique whole again written
  obtain ⟨front, same⟩ := digits_unique whole.digits again.digits (fraction_stops power)
    (fraction_stops next) same
  obtain ⟨behind, exponent⟩ := fraction_unique decimals further power next same
  cases n
  cases other
  simp_all

/-- The characters of a power of ten can stand in a number. -/
theorem SpellsExponent.numberChars {exponent : Option Int} (spelled : SpellsExponent cs exponent) :
    ∀ c ∈ cs, isNumberChar c := by
  have digit : ∀ digits : List Char, IsDigits digits → ∀ c ∈ digits, isNumberChar c := by
    intro digits each c member
    simp [isNumberChar, each.digits c member]
  cases spelled with
  | missing => exact nofun
  | power mark integer =>
    -- The mark, a sign and digits are all characters of numbers.
    rw [List.forall_mem_cons]
    refine ⟨by rcases mark with rfl | rfl <;> decide, ?_⟩
    cases integer with
    | unsigned digits => exact digit _ digits
    | plus digits => exact List.forall_mem_cons.mpr ⟨by decide, digit _ digits⟩
    | minus digits => exact List.forall_mem_cons.mpr ⟨by decide, digit _ digits⟩

/-- The characters of a number can stand in a number. -/
theorem SpellsNumeral.numberChars {n : Numeral} (spelled : SpellsNumeral cs n) :
    ∀ c ∈ cs, isNumberChar c := by
  obtain ⟨whole, -, decimals, power⟩ := spelled
  have digit : ∀ c : Char, c.isDigit → isNumberChar c := by
    intro c digit
    simp [isNumberChar, digit]
  -- The four fields of a number are looked at one by one.
  simp only [List.forall_mem_append]
  refine ⟨?_, fun c member => digit c (whole.digits c member), ?_, power.numberChars⟩
  · unfold minusSign
    split
    · exact List.forall_mem_singleton.mpr rfl
    · exact nofun
  · unfold fraction
    split
    · exact nofun
    · exact List.forall_mem_cons.mpr ⟨by decide, fun c member => digit c (decimals c member)⟩

/-- A number begins with a digit or a minus. -/
theorem SpellsNumeral.head {n : Numeral} (spelled : SpellsNumeral cs n) :
    ∃ c tail, cs = c :: tail ∧ (c.isDigit ∨ c = '-') := by
  -- A digit stands in front where no minus does.
  obtain ⟨whole, -, -, -⟩ := spelled
  obtain ⟨c, tail, same, digit⟩ := whole.head
  rw [same]
  unfold minusSign
  split
  · exact ⟨'-', _, rfl, .inr rfl⟩
  · exact ⟨c, _, rfl, .inl digit⟩

/-- A number and what follows it are told apart where no further character of a number follows. -/
theorem SpellsNumeral.unique_append {n other : Numeral} (spelled : SpellsNumeral cs n)
    (also : SpellsNumeral more other) (stops : ∀ c ∈ rest.head?, isNumberChar c = false)
    (halts : ∀ c ∈ left.head?, isNumberChar c = false) (same : cs ++ rest = more ++ left) :
    n = other ∧ rest = left := by
  -- A number is all of the text up to the first character that numbers do not have.
  obtain ⟨taken, dropped⟩ := takeWhile_dropWhile_append spelled.numberChars stops
  obtain ⟨took, behind⟩ := takeWhile_dropWhile_append also.numberChars halts
  rw [same] at taken dropped
  obtain rfl := taken.symm.trans took
  exact ⟨spelled.unique also, dropped.symm.trans behind⟩

/-- Four hexadecimal digits and what follows them are told apart. -/
theorem SpellsUnit.unique {n other : Nat} (spelled : SpellsUnit cs n) (also : SpellsUnit more other)
    (same : cs ++ rest = more ++ left) : n = other ∧ rest = left := by
  -- Four characters stand for four digits, and these for one number.
  obtain ⟨i, j, k, l⟩ := spelled
  obtain ⟨p, q, r, s⟩ := also
  simp only [List.cons_append, List.nil_append, List.cons.injEq] at same
  obtain ⟨rfl, rfl, rfl, rfl, rfl⟩ := same
  rw [i, Option.some.injEq] at p
  rw [j, Option.some.injEq] at q
  rw [k, Option.some.injEq] at r
  rw [l, Option.some.injEq] at s
  subst p q r s
  exact ⟨rfl, rfl⟩

/-- No character is encoded by a surrogate alone. -/
theorem not_surrogate (c : Char) : ¬ (0xD800 ≤ c.toNat ∧ c.toNat < 0xDC00) := by
  -- Characters skip the numbers from the first surrogate to the last.
  rcases c.valid with below | above
  · have : c.toNat < 0xD800 := below
    omega
  · have : 0xDFFF < c.toNat := above.1
    omega

/-- A mark stands for no more than one character. -/
theorem shortEscapes_unique {mark c d : Char} (known : (mark, c) ∈ shortEscapes)
    (also : (mark, d) ∈ shortEscapes) : c = d := by
  -- There are eight marks, each with one character.
  simp only [shortEscapes, List.mem_cons, Prod.mk.injEq, List.not_mem_nil, or_false] at known
  rcases known with ⟨rfl, rfl⟩ | ⟨rfl, rfl⟩ | ⟨rfl, rfl⟩ | ⟨rfl, rfl⟩ | ⟨rfl, rfl⟩ | ⟨rfl, rfl⟩ |
    ⟨rfl, rfl⟩ | ⟨rfl, rfl⟩ <;> simpa [shortEscapes, eq_comm] using also

/-- No short escape has the mark of a unit. -/
theorem not_shortEscape_unit (c : Char) : ('u', c) ∉ shortEscapes := by
  simp [shortEscapes]

/-- A unit that stands for a character and one that is a surrogate do not begin the same text. -/
theorem SpellsUnit.not_surrogate {c : Char} {high : Nat} (spelled : SpellsUnit cs c.toNat)
    (also : SpellsUnit more high) (surrogate : 0xD800 ≤ high ∧ high < 0xDC00) :
    cs ++ rest ≠ more ++ left := by
  -- The units would be the same, and a character is no surrogate.
  intro same
  obtain ⟨rfl, -⟩ := spelled.unique also same
  exact Json.not_surrogate c surrogate

/-- A character in a string and what follows it are told apart. -/
theorem SpellsChar.unique {c d : Char} (spelled : SpellsChar cs c) (also : SpellsChar more d)
    (same : cs ++ rest = more ++ left) : c = d ∧ rest = left := by
  -- The first character tells an escape from a plain one, and the second which escape it is.
  cases spelled with
  | plain _ _ backslash =>
    cases also with
    | plain => exact List.cons.inj same
    | short | unit | pair => exact absurd (List.cons.inj same).1 backslash
  | short known =>
    cases also with
    | plain _ _ backslash => exact absurd (List.cons.inj same).1.symm backslash
    | short other =>
      obtain ⟨rfl, rfl⟩ := List.cons.inj (List.cons.inj same).2
      exact ⟨shortEscapes_unique known other, rfl⟩
    | unit | pair =>
      obtain ⟨rfl, -⟩ := List.cons.inj (List.cons.inj same).2
      exact absurd known (not_shortEscape_unit _)
  | unit digits =>
    cases also with
    | plain _ _ backslash => exact absurd (List.cons.inj same).1.symm backslash
    | short known =>
      obtain ⟨rfl, -⟩ := List.cons.inj (List.cons.inj same).2
      exact absurd known (not_shortEscape_unit _)
    | unit other =>
      obtain ⟨code, behind⟩ := digits.unique other (List.cons.inj (List.cons.inj same).2).2
      exact ⟨Char.toNat_inj.mp code, behind⟩
    | pair other _ surrogate =>
      -- A unit alone is no surrogate, and the first of a pair is one.
      simp only [List.cons_append, List.append_assoc, List.cons.injEq, true_and] at same
      exact absurd same (digits.not_surrogate other surrogate)
  | pair digits more surrogate second code =>
    cases also with
    | plain _ _ backslash => exact absurd (List.cons.inj same).1.symm backslash
    | short known =>
      obtain ⟨rfl, -⟩ := List.cons.inj (List.cons.inj same).2
      exact absurd known (not_shortEscape_unit _)
    | unit other =>
      simp only [List.cons_append, List.append_assoc, List.cons.injEq, true_and] at same
      exact absurd same.symm (other.not_surrogate digits surrogate)
    | pair other another _ _ point =>
      simp only [List.cons_append, List.append_assoc, List.cons.injEq, true_and] at same
      obtain ⟨rfl, behind⟩ := digits.unique other same
      obtain ⟨rfl, behind⟩ := more.unique another (List.cons.inj (List.cons.inj behind).2).2
      exact ⟨Char.toNat_inj.mp (code.trans point.symm), behind⟩

/-- A character in a string does not begin with a quote. -/
theorem SpellsChar.ne_quote {c : Char} (spelled : SpellsChar cs c) :
    cs ++ rest ≠ '\x22' :: left := by
  -- A quote is escaped, and escapes begin with a backslash.
  intro same
  cases spelled with
  | plain _ quote _ => exact quote (List.cons.inj same).1
  | short | unit | pair => exact absurd (List.cons.inj same).1 (by decide)

/-- The characters of a string and what follows its closing quote are told apart. -/
theorem SpellsChars.unique {text other : List Char} (spelled : SpellsChars cs text)
    (also : SpellsChars more other) (same : cs ++ '\x22' :: rest = more ++ '\x22' :: left) :
    text = other ∧ rest = left := by
  induction spelled generalizing more other with
  | nil =>
    cases also with
    | nil => exact ⟨rfl, (List.cons.inj same).2⟩
    | cons first =>
      -- One string would end where the other goes on.
      rw [List.append_assoc] at same
      exact absurd same.symm first.ne_quote
  | cons first _ ih =>
    cases also with
    | nil =>
      rw [List.append_assoc] at same
      exact absurd same first.ne_quote
    -- Both go on with the same character, and so with the same text.
    | cons another others =>
      rw [List.append_assoc, List.append_assoc] at same
      obtain ⟨rfl, same⟩ := first.unique another same
      obtain ⟨rfl, behind⟩ := ih others same
      exact ⟨rfl, behind⟩

/-- A string and what follows it are told apart. -/
theorem SpellsString.unique {s other : String} (spelled : SpellsString cs s)
    (also : SpellsString more other) (same : cs ++ rest = more ++ left) :
    s = other ∧ rest = left := by
  -- What stands between the quotes is told by the closing one.
  obtain ⟨body⟩ := spelled
  obtain ⟨text⟩ := also
  simp only [List.cons_append, List.append_assoc, List.nil_append, List.cons.injEq,
    true_and] at same
  obtain ⟨characters, behind⟩ := body.unique text same
  exact ⟨String.toList_inj.mp characters, behind⟩

/-- Characters that do not begin with a quote do not begin like a string. -/
theorem SpellsString.not_cons {s : String} (spelled : SpellsString more s) {c : Char}
    (other : c ≠ '\x22') : c :: cs ≠ more ++ left := by
  intro same
  obtain ⟨body⟩ := spelled
  exact other (List.cons.inj same).1

/-- The spaces before characters that begin with none are skipped. -/
theorem skip_append {gap : List Char} (spaces : IsGap gap)
    (stops : ∀ c ∈ rest.head?, isSpace c = false) : skip (gap ++ rest) = rest :=
  (takeWhile_dropWhile_append spaces stops).2

/-- Two texts behind spaces are the same where neither begins with one. -/
theorem gap_unique {gap other : List Char} (spaces : IsGap gap) (also : IsGap other)
    (stops : ∀ c ∈ rest.head?, isSpace c = false) (halts : ∀ c ∈ left.head?, isSpace c = false)
    (same : gap ++ rest = other ++ left) : rest = left := by
  -- Skipping the spaces leaves what is behind them.
  rw [← skip_append spaces stops, same, skip_append also halts]

/-- A string begins with no space, whatever follows it. -/
theorem SpellsString.visible {s : String} (spelled : SpellsString cs s) :
    ∀ c ∈ (cs ++ rest).head?, isSpace c = false := by
  -- A string begins with its quote.
  obtain ⟨body⟩ := spelled
  intro c first
  cases first
  decide

/-- No space can stand in a number. -/
theorem isNumberChar_of_isSpace {c : Char} (space : isSpace c) : isNumberChar c = false := by
  -- There are four spaces, and none of them stands in a number.
  simp only [isSpace, Bool.or_eq_true, decide_eq_true_eq] at space
  rcases space with ((rfl | rfl) | rfl) | rfl <;> decide

variable {Gap Blank : List Char → Prop}

/-- A document begins with a character that is neither a space nor the end of an array. -/
theorem Spells.head {tree : Tree} (spelled : Spells Gap cs tree) :
    ∃ c tail, cs = c :: tail ∧ isSpace c = false ∧ c ≠ ']' := by
  -- A number begins with a digit or a minus, and all others with a character of their own.
  cases spelled with
  | number numeral =>
    obtain ⟨c, tail, rfl, lead⟩ := numeral.head
    have inside := numeral.numberChars c List.mem_cons_self
    refine ⟨c, tail, rfl, ?_, ?_⟩
    · rw [← Bool.not_eq_true]
      intro space
      rw [isNumberChar_of_isSpace space] at inside
      exact absurd inside nofun
    · rintro rfl
      exact absurd inside (by decide)
  | string text =>
    obtain ⟨body⟩ := text
    exact ⟨_, _, rfl, by decide⟩
  | _ => exact ⟨_, _, rfl, by decide⟩

/-- A document begins with no space, whatever follows it. -/
theorem Spells.visible {tree : Tree} (spelled : Spells Gap cs tree) :
    ∀ c ∈ (cs ++ rest).head?, isSpace c = false := by
  -- Its first character is the first of all.
  obtain ⟨c, tail, rfl, visible, -⟩ := spelled.head
  simpa using visible

/-- The kinds of documents that differ in their first character. -/
inductive Kind where
  | null
  | bool (b : Bool)
  | number
  | string
  | array
  | object

/-- The kind of a document. -/
def Tree.kind : Tree → Kind
  | .null => .null
  | .bool b => .bool b
  | .number _ => .number
  | .string _ => .string
  | .array _ => .array
  | .object _ => .object

/-- The kind of the documents that begin with a character, if it can begin one. -/
def kindOf : Char → Kind
  | 'n' => .null
  | 'f' => .bool false
  | 't' => .bool true
  | '\x22' => .string
  | '[' => .array
  | '\x7b' => .object
  | _ => .number

/-- A number begins with none of the characters that begin other documents. -/
theorem kindOf_number {c : Char} (lead : c.isDigit ∨ c = '-') : kindOf c = .number := by
  unfold kindOf
  split
  case h_7 => rfl
  -- None of the other six is a digit or a minus.
  all_goals exact absurd lead (by decide)

/-- The first character tells the kind of a document. -/
theorem Spells.kind {tree : Tree} (spelled : Spells Gap cs tree) :
    (cs ++ rest).head?.map kindOf = some tree.kind := by
  -- The first character tells the kind.
  cases spelled with
  | number numeral =>
    obtain ⟨c, tail, rfl, lead⟩ := numeral.head
    exact congrArg some (kindOf_number lead)
  | string text =>
    obtain ⟨body⟩ := text
    rfl
  | _ => rfl

/-- Documents with the same first character are of one kind. -/
theorem Spells.kind_eq {tree other : Tree} (spelled : Spells Gap cs tree)
    (also : Spells Blank more other) (same : cs ++ rest = more ++ left) :
    tree.kind = other.kind := by
  -- The texts are the same, and so are their first characters.
  have kinds : (cs ++ rest).head?.map kindOf = some tree.kind := spelled.kind
  rw [same] at kinds
  exact Option.some.inj (kinds.symm.trans also.kind)

/-- Characters behind a document end it: they begin with neither a space nor a character of a
number. -/
def Closes (cs : List Char) : Prop :=
  ∀ c ∈ cs.head?, isSpace c = false ∧ isNumberChar c = false

/-- Spaces before what ends a document begin with no character of a number. -/
theorem Closes.stops {gap : List Char} (closes : Closes rest) (spaces : IsGap gap) :
    ∀ c ∈ (gap ++ rest).head?, isNumberChar c = false := by
  intro c first
  -- Either a space comes first, or what ends the document does.
  cases gap with
  | nil => exact (closes c first).2
  | cons d gap =>
    cases first
    exact isNumberChar_of_isSpace (spaces c List.mem_cons_self)

/-- What begins with a comma, a colon or a closing bracket ends a document. -/
theorem closes_cons {c : Char} (mark : c = ',' ∨ c = ']' ∨ c = '\x7d') : Closes (c :: cs) := by
  intro d first
  cases first
  rcases mark with rfl | rfl | rfl <;> decide

/-- A document behind spaces does not begin like the end of an array. -/
theorem SpellsSpaced.not_closed {tree : Tree} (blanks : ∀ cs, Blank cs → IsGap cs)
    (spelled : SpellsSpaced Blank more tree) {gap : List Char} (spaces : IsGap gap) :
    gap ++ ']' :: rest ≠ more ++ left := by
  intro same
  obtain ⟨before, document, -⟩ := spelled
  -- Behind the spaces a document begins, and none begins with the bracket.
  obtain ⟨c, tail, rfl, visible, open_⟩ := document.head
  rw [List.append_assoc] at same
  have begun := gap_unique spaces (blanks _ before) (by simp; decide) (by simpa using visible) same
  exact open_ (List.cons.inj begun).1.symm

/-- The items of an array do not begin like its end. -/
theorem SpellsItems.not_closed {items : List Tree} (blanks : ∀ cs, Blank cs → IsGap cs)
    (spelled : SpellsItems Blank more items) {gap : List Char} (spaces : IsGap gap) :
    gap ++ ']' :: rest ≠ more ++ left := by
  -- The first item stands in front of the bracket.
  cases spelled with
  | last item => exact item.not_closed blanks spaces
  | next item =>
    rw [List.append_assoc]
    exact item.not_closed blanks spaces

/-- The members of an object do not begin like its end. -/
theorem SpellsMembers.not_closed {members : List (String × Tree)}
    (blanks : ∀ cs, Blank cs → IsGap cs) (spelled : SpellsMembers Blank more members)
    {gap : List Char} (spaces : IsGap gap) : gap ++ '\x7d' :: rest ≠ more ++ left := by
  intro same
  -- Behind the spaces a name begins, which has a quote in front.
  cases spelled with
  | last before name =>
    rw [List.append_assoc, List.append_assoc] at same
    exact name.not_cons (by decide)
      (gap_unique spaces (blanks _ before) (by simp; decide) name.visible same)
  | next before name =>
    rw [List.append_assoc, List.append_assoc] at same
    exact name.not_cons (by decide)
      (gap_unique spaces (blanks _ before) (by simp; decide) name.visible same)

/-- What stands between the same brackets is the same with what follows them. -/
theorem inside_brackets {c d : Char}
    (same : c :: (cs ++ [d]) ++ rest = c :: (more ++ [d]) ++ left) :
    cs ++ d :: rest = more ++ d :: left := by
  simpa using same

/-- The name of a member and what follows its colon are told apart. -/
theorem member_unique {before gap name text after space : List Char} {key other : String}
    (spaces : IsGap before) (blank : IsGap gap) (spelled : SpellsString name key)
    (also : SpellsString text other) (trailing : IsGap after) (behind : IsGap space)
    (same : before ++ (name ++ (after ++ ':' :: rest)) = gap ++ (text ++ (space ++ ':' :: left))) :
    key = other ∧ rest = left := by
  -- The spaces, the name and the spaces behind it are taken off one after the other.
  have names := gap_unique spaces blank spelled.visible also.visible same
  obtain ⟨rfl, colon⟩ := spelled.unique also names
  have documents := gap_unique trailing behind (by simp; decide) (by simp; decide) colon
  exact ⟨rfl, (List.cons.inj documents).2⟩

-- The induction is on the first spelling. What stands behind a document must not go on with it, or
-- `1` followed by `2` would also be `12`: it begins with no character of a number, and with no
-- space where the spaces behind the document are its own.
mutual

/-- A document and what ends it are told apart. -/
theorem Spells.unique {cs more rest left : List Char} {tree other : Tree}
    (gaps : ∀ cs, Gap cs → IsGap cs) (blanks : ∀ cs, Blank cs → IsGap cs) :
    Spells Gap cs tree → Spells Blank more other →
    (∀ c ∈ rest.head?, isNumberChar c = false) → (∀ c ∈ left.head?, isNumberChar c = false) →
    cs ++ rest = more ++ left → tree = other ∧ rest = left
  -- Both documents are of the kind that their first character tells.
  | .null, also, _, _, same => by
    have kinds := (@Spells.null Gap).kind_eq also same
    cases also with
    | null => exact ⟨rfl, by simpa using same⟩
    | _ => exact absurd kinds nofun
  | .isFalse, also, _, _, same => by
    have kinds := (@Spells.isFalse Gap).kind_eq also same
    cases also with
    | isFalse => exact ⟨rfl, by simpa using same⟩
    | _ => exact absurd kinds nofun
  | .isTrue, also, _, _, same => by
    have kinds := (@Spells.isTrue Gap).kind_eq also same
    cases also with
    | isTrue => exact ⟨rfl, by simpa using same⟩
    | _ => exact absurd kinds nofun
  -- A number ends where no character of numbers follows.
  | .number numeral, also, stops, halts, same => by
    have kinds := (@Spells.number Gap _ _ numeral).kind_eq also same
    cases also with
    | number another =>
      obtain ⟨rfl, behind⟩ := numeral.unique_append another stops halts same
      exact ⟨rfl, behind⟩
    | _ => exact absurd kinds nofun
  | .string text, also, _, _, same => by
    have kinds := (@Spells.string Gap _ _ text).kind_eq also same
    cases also with
    | string another =>
      obtain ⟨rfl, behind⟩ := text.unique another same
      exact ⟨rfl, behind⟩
    | _ => exact absurd kinds nofun
  -- An empty array is told from others by what comes first in its brackets.
  | .emptyArray gap, also, _, _, same => by
    have kinds := (Spells.emptyArray gap).kind_eq also same
    cases also with
    | emptyArray blank =>
      have behind := gap_unique (gaps _ gap) (blanks _ blank) (by simp; decide) (by simp; decide)
        (inside_brackets same)
      exact ⟨rfl, (List.cons.inj behind).2⟩
    | array others =>
      exact absurd (inside_brackets same) (others.not_closed blanks (gaps _ gap))
    | _ => exact absurd kinds nofun
  | .array items, also, _, _, same => by
    have kinds := (Spells.array items).kind_eq also same
    cases also with
    | emptyArray blank =>
      exact absurd (inside_brackets same).symm (items.not_closed gaps (blanks _ blank))
    | array others =>
      obtain ⟨rfl, behind⟩ :=
        SpellsItems.unique gaps blanks items others (inside_brackets same)
      exact ⟨rfl, behind⟩
    | _ => exact absurd kinds nofun
  | .emptyObject gap, also, _, _, same => by
    have kinds := (Spells.emptyObject gap).kind_eq also same
    cases also with
    | emptyObject blank =>
      have behind := gap_unique (gaps _ gap) (blanks _ blank) (by simp; decide) (by simp; decide)
        (inside_brackets same)
      exact ⟨rfl, (List.cons.inj behind).2⟩
    | object others =>
      exact absurd (inside_brackets same) (others.not_closed blanks (gaps _ gap))
    | _ => exact absurd kinds nofun
  | .object members, also, _, _, same => by
    have kinds := (Spells.object members).kind_eq also same
    cases also with
    | emptyObject blank =>
      exact absurd (inside_brackets same).symm (members.not_closed gaps (blanks _ blank))
    | object others =>
      obtain ⟨rfl, behind⟩ :=
        SpellsMembers.unique gaps blanks members others (inside_brackets same)
      exact ⟨rfl, behind⟩
    | _ => exact absurd kinds nofun

/-- A document between spaces and what ends it are told apart. -/
theorem SpellsSpaced.unique {cs more rest left : List Char} {tree other : Tree}
    (gaps : ∀ cs, Gap cs → IsGap cs) (blanks : ∀ cs, Blank cs → IsGap cs) :
    SpellsSpaced Gap cs tree → SpellsSpaced Blank more other → Closes rest → Closes left →
    cs ++ rest = more ++ left → tree = other ∧ rest = left
  | .spaced before spelled after, also, closes, ends, same => by
    obtain ⟨leading, another, trailing⟩ := also
    simp only [List.append_assoc] at same
    -- The gaps in front are the same, since a document begins with no space.
    have document := gap_unique (gaps _ before) (blanks _ leading) spelled.visible another.visible
      same
    obtain ⟨rfl, behind⟩ := Spells.unique gaps blanks spelled another (closes.stops (gaps _ after))
      (ends.stops (blanks _ trailing)) document
    exact ⟨rfl, gap_unique (gaps _ after) (blanks _ trailing) (fun c first => (closes c first).1)
      (fun c first => (ends c first).1) behind⟩

/-- The items of an array and what follows its closing bracket are told apart. -/
theorem SpellsItems.unique {cs more rest left : List Char} {items others : List Tree}
    (gaps : ∀ cs, Gap cs → IsGap cs) (blanks : ∀ cs, Blank cs → IsGap cs) :
    SpellsItems Gap cs items → SpellsItems Blank more others →
    cs ++ ']' :: rest = more ++ ']' :: left → items = others ∧ rest = left
  | .last item, also, same => by
    cases also with
    | last other =>
      obtain ⟨rfl, behind⟩ := SpellsSpaced.unique gaps blanks item other (closes_cons (by decide))
        (closes_cons (by decide)) same
      exact ⟨rfl, (List.cons.inj behind).2⟩
    | next other =>
      -- One array ends where the other has a comma.
      rw [List.append_assoc] at same
      have behind := (SpellsSpaced.unique gaps blanks item other (closes_cons (by decide))
        (closes_cons (by decide)) same).2
      exact absurd (List.cons.inj behind).1 (by decide)
  | .next item items, also, same => by
    rw [List.append_assoc] at same
    cases also with
    | last other =>
      have behind := (SpellsSpaced.unique gaps blanks item other (closes_cons (by decide))
        (closes_cons (by decide)) same).2
      exact absurd (List.cons.inj behind).1 (by decide)
    | next other others =>
      rw [List.append_assoc] at same
      obtain ⟨rfl, behind⟩ := SpellsSpaced.unique gaps blanks item other (closes_cons (by decide))
        (closes_cons (by decide)) same
      obtain ⟨rfl, behind⟩ := SpellsItems.unique gaps blanks items others (List.cons.inj behind).2
      exact ⟨rfl, behind⟩

/-- The members of an object and what follows its closing bracket are told apart. -/
theorem SpellsMembers.unique {cs more rest left : List Char}
    {members others : List (String × Tree)}
    (gaps : ∀ cs, Gap cs → IsGap cs) (blanks : ∀ cs, Blank cs → IsGap cs) :
    SpellsMembers Gap cs members → SpellsMembers Blank more others →
    cs ++ '\x7d' :: rest = more ++ '\x7d' :: left → members = others ∧ rest = left
  | .last before name after value, also, same => by
    simp only [List.append_assoc, List.cons_append] at same
    cases also with
    | last leading other trailing another =>
      simp only [List.append_assoc, List.cons_append] at same
      obtain ⟨rfl, document⟩ := member_unique (gaps _ before) (blanks _ leading) name other
        (gaps _ after) (blanks _ trailing) same
      obtain ⟨rfl, behind⟩ := SpellsSpaced.unique gaps blanks value another
        (closes_cons (by decide)) (closes_cons (by decide)) document
      exact ⟨rfl, (List.cons.inj behind).2⟩
    | next leading other trailing another =>
      -- One object ends where the other has a comma.
      simp only [List.append_assoc, List.cons_append] at same
      have document := (member_unique (gaps _ before) (blanks _ leading) name other
        (gaps _ after) (blanks _ trailing) same).2
      have behind := (SpellsSpaced.unique gaps blanks value another
        (closes_cons (by decide)) (closes_cons (by decide)) document).2
      exact absurd (List.cons.inj behind).1 (by decide)
  | .next before name after value members, also, same => by
    simp only [List.append_assoc, List.cons_append] at same
    cases also with
    | last leading other trailing another =>
      simp only [List.append_assoc, List.cons_append] at same
      have document := (member_unique (gaps _ before) (blanks _ leading) name other
        (gaps _ after) (blanks _ trailing) same).2
      have behind := (SpellsSpaced.unique gaps blanks value another
        (closes_cons (by decide)) (closes_cons (by decide)) document).2
      exact absurd (List.cons.inj behind).1 (by decide)
    | next leading other trailing another others =>
      simp only [List.append_assoc, List.cons_append] at same
      obtain ⟨rfl, document⟩ := member_unique (gaps _ before) (blanks _ leading) name other
        (gaps _ after) (blanks _ trailing) same
      obtain ⟨rfl, behind⟩ := SpellsSpaced.unique gaps blanks value another
        (closes_cons (by decide)) (closes_cons (by decide)) document
      obtain ⟨rfl, behind⟩ :=
        SpellsMembers.unique gaps blanks members others (List.cons.inj behind).2
      exact ⟨rfl, behind⟩

end

/-- A text is the written form of no more than one document, whatever spaces it may have. -/
theorem SpellsText.unique {tree other : Tree} (gaps : ∀ cs, Gap cs → IsGap cs)
    (spelled : SpellsSpaced Gap cs tree) (also : SpellsText cs other) : tree = other := by
  -- Nothing follows the document, which ends any.
  have closes : Closes [] := nofun
  exact (SpellsSpaced.unique gaps (fun _ gap => gap) spelled also closes closes rfl).1

end TextTemplate.Json
