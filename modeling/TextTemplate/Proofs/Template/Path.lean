import TextTemplate.Proofs.Template.Grammar
import TextTemplate.Proofs.Text.Leading

/-! Numbers, names and paths are read exactly where they are spelled. -/

namespace TextTemplate

/-- A number is read in full where no further digit follows. -/
theorem readNumber?_append {digits rest : List Char} {number : Nat}
    (spelled : SpellsNumber digits number) (stops : ∀ c ∈ rest.head?, c.isDigit = false) :
    readNumber? (digits ++ rest) = some (number, rest) := by
  -- All digits are taken, because the character behind them is none.
  obtain ⟨taken, left⟩ := takeWhile_dropWhile_append spelled.digits stops
  simp [readNumber?, taken, left, spelled.nonempty, spelled.value, numberBound, spelled.bounded]

/-- A number that is read is spelled by the digits in front, behind which no digit follows. -/
theorem readNumber?_spells {cs rest : List Char} {number : Nat}
    (read : readNumber? cs = some (number, rest)) :
    ∃ digits, cs = digits ++ rest ∧ SpellsNumber digits number ∧
      ∀ c ∈ rest.head?, c.isDigit = false := by
  simp only [readNumber?] at read
  split at read
  · rename_i fits
    cases read
    refine ⟨cs.takeWhile Char.isDigit, List.takeWhile_append_dropWhile.symm, ?_,
      head?_dropWhile_stops Char.isDigit cs⟩
    -- The digits are all leading ones, and the bound was checked.
    exact ⟨fits.1, fun c member => List.mem_takeWhile_imp member, rfl, fits.2⟩
  · contradiction

/-- Without a digit in front there is no number. -/
theorem readNumber?_none {cs : List Char} (stops : ∀ c ∈ cs.head?, c.isDigit = false) :
    readNumber? cs = none := by
  -- The leading digits are empty.
  have none : ∀ c ∈ ([] : List Char), c.isDigit = true := by simp
  have taken := (takeWhile_dropWhile_append none stops).1
  simp only [List.nil_append] at taken
  simp [readNumber?, taken]

/-- A name begins with a letter or an underscore. -/
theorem isNameStart_iff {c : Char} : isNameStart c ↔ c.isAlpha ∨ c = '_' := by
  simp [isNameStart]

/-- A name goes on with letters, digits and underscores. -/
theorem isNameChar_iff {c : Char} : isNameChar c ↔ c.isAlpha ∨ c.isDigit ∨ c = '_' := by
  -- What is alphanumeric is a letter or a digit.
  simp [isNameChar, Char.isAlphanum, or_assoc]

/-- A character that begins a name can also continue one. -/
theorem isNameChar_of_isNameStart {c : Char} (start : isNameStart c) : isNameChar c := by
  rw [isNameStart_iff] at start
  rw [isNameChar_iff]
  -- A letter and an underscore are allowed in both places.
  exact start.imp_right .inr

/-- A name is read in full where no further character of a name follows. -/
theorem readName?_append {name rest : List Char} (named : IsName name)
    (stops : ∀ c ∈ rest.head?, isNameChar c = false) :
    readName? (name ++ rest) = some (String.ofList name, rest) := by
  obtain ⟨first, begins, start⟩ := named.start
  -- The first character decides that there is a name, and the others run up to the end.
  cases name with
  | nil => simp at begins
  | cons c name =>
    simp only [List.head?_cons, Option.mem_def, Option.some.injEq] at begins
    subst begins
    obtain ⟨taken, left⟩ := takeWhile_dropWhile_append
      (fun d member => isNameChar_iff.mpr (named.onward d (List.mem_cons_of_mem c member))) stops
    simp [readName?, isNameStart_iff.mpr start, taken, left]

/-- A name that is read is the characters in front. -/
theorem readName?_spells {cs rest : List Char} {name : String}
    (read : readName? cs = some (name, rest)) :
    ∃ chars, cs = chars ++ rest ∧ IsName chars ∧ name = String.ofList chars := by
  cases cs with
  | nil => simp [readName?] at read
  | cons c cs =>
    simp only [readName?] at read
    split at read
    · rename_i start
      cases read
      -- The name takes its first character and all that can continue it.
      refine ⟨c :: cs.takeWhile isNameChar, ?_, ⟨⟨c, rfl, isNameStart_iff.mp start⟩, ?_⟩, rfl⟩
      · rw [List.cons_append, List.takeWhile_append_dropWhile]
      · intro d member
        rw [← isNameChar_iff]
        rcases List.mem_cons.mp member with rfl | member
        · exact isNameChar_of_isNameStart start
        · exact List.mem_takeWhile_imp member
    · contradiction

/-- Steps that are read are spelled by the whole text. -/
theorem readSteps?_spells {cs : List Char} {segments : List Segment}
    (read : readSteps? cs = some segments) : SpellsSteps cs segments := by
  -- Each step takes the characters that spell it, and the recursion reads what it leaves.
  fun_induction readSteps? cs generalizing segments with
  | case1 => cases read; exact .done
  | case2 rest name more named _ ih =>
    obtain ⟨tail, onward, rfl⟩ := Option.map_eq_some_iff.mp read
    obtain ⟨chars, rfl, isName, rfl⟩ := readName?_spells named
    exact .field isName (ih onward)
  | case3 => contradiction
  | case4 rest index more numbered _ ih =>
    obtain ⟨tail, onward, rfl⟩ := Option.map_eq_some_iff.mp read
    obtain ⟨digits, rfl, spelled, _⟩ := readNumber?_spells numbered
    exact .element spelled (ih onward)
  | case5 => contradiction
  | case6 => contradiction

/-- Steps begin with a point or a bracket, neither of which continues a name. -/
theorem SpellsSteps.stops {cs : List Char} {segments : List Segment}
    (spelled : SpellsSteps cs segments) : ∀ c ∈ cs.head?, isNameChar c = false := by
  -- Steps begin with a point or a bracket.
  intro c first
  cases spelled with
  | done => simp at first
  | field => cases first; rfl
  | element => cases first; rfl

/-- Steps are read as they are spelled. -/
theorem SpellsSteps.read {cs : List Char} {segments : List Segment}
    (spelled : SpellsSteps cs segments) : readSteps? cs = some segments := by
  -- The reader takes one step apart, and reads the others by induction.
  induction spelled with
  | done => simp [readSteps?]
  | field named onward ih =>
    -- A step begins with no character of a name, so the name ends where it is spelled.
    have read := readName?_append named onward.stops
    rw [readSteps?]
    split
    · rename_i found
      rw [read] at found
      cases found
      simp [ih]
    · rename_i missing
      rw [read] at missing
      contradiction
  | @element digits rest index segments number onward ih =>
    -- The closing bracket is no digit.
    have read : readNumber? (digits ++ ']' :: rest) = some (index, ']' :: rest) :=
      readNumber?_append number (by intro c first; cases first; rfl)
    rw [readSteps?]
    split
    · rename_i found
      rw [read] at found
      cases found
      simp [ih]
    · rename_i missing
      exact absurd read (missing _ _)

/-- A text is read as a path exactly where it spells the path. -/
theorem readPath?_eq_some_iff {cs : List Char} {segments : List Segment} :
    readPath? cs = some segments ↔ SpellsPath cs segments := by
  constructor
  · intro read
    simp only [readPath?, Option.bind_eq_bind, Option.bind_eq_some_iff, Option.pure_def,
      Option.some.injEq, Prod.exists] at read
    obtain ⟨name, rest, named, steps, onward, rfl⟩ := read
    -- The first name has no point, and the rest is read as steps.
    obtain ⟨chars, rfl, isName, rfl⟩ := readName?_spells named
    exact .path isName (readSteps?_spells onward)
  · intro spelled
    cases spelled with
    | path named onward =>
      simp [readPath?, readName?_append named onward.stops, onward.read]

/-- A name has no closing parenthesis. -/
theorem IsName.no_parenthesis {cs : List Char} (named : IsName cs) : ')' ∉ cs :=
  fun member => absurd (named.onward _ member) (by decide)

/-- A number has no closing parenthesis. -/
theorem SpellsNumber.no_parenthesis {cs : List Char} {number : Nat}
    (spelled : SpellsNumber cs number) : ')' ∉ cs :=
  fun member => absurd (spelled.digits _ member) (by decide)

/-- Steps have no closing parenthesis. -/
theorem SpellsSteps.no_parenthesis {cs : List Char} {segments : List Segment}
    (spelled : SpellsSteps cs segments) : ')' ∉ cs := by
  -- Neither names nor numbers have a parenthesis in them.
  induction spelled with
  | done => simp
  | field named _ ih => simp [named.no_parenthesis, ih]
  | element number _ ih => simp [number.no_parenthesis, ih]

/-- A path has characters, and none that would end the key it stands in. -/
theorem SpellsPath.key {cs : List Char} {segments : List Segment}
    (spelled : SpellsPath cs segments) : cs ≠ [] ∧ ')' ∉ cs := by
  cases spelled with
  | path named onward =>
    -- The first name gives a character, and neither names nor steps have a parenthesis.
    obtain ⟨first, begins, _⟩ := named.start
    constructor
    · intro empty
      simp [(List.append_eq_nil_iff.mp empty).1] at begins
    · simp [named.no_parenthesis, onward.no_parenthesis]

end TextTemplate
