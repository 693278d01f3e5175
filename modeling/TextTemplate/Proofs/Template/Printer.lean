import TextTemplate.Proofs.Number.Digits
import TextTemplate.Proofs.Template.Nodes

/-! Pieces are printed as the shortest text that is read back as them. -/

namespace TextTemplate

/-- A step behind the first field of a path as it is printed. -/
def Segment.step : Segment → List Char
  | .field name => '.' :: name.toList
  | .element index => '[' :: (Nat.toDigits 10 index ++ [']'])

/-- A path as it is printed: its first segment goes without a mark. -/
def pathText : List Segment → List Char
  | [] => []
  | first :: steps => first.text.toList ++ steps.flatMap Segment.step

/-- A selector as it is printed. -/
def Selector.printed : Selector → List Char
  | .next => []
  | .number position => Nat.toDigits 10 position ++ ['$']
  | .path segments => '(' :: (pathText segments ++ [')'])

/-- A pad as it is printed. -/
def Pad.printed : Pad → List Char
  | .zero => ['0']
  | .character c => ['\x27', c]

/-- The fields of a placeholder as they are printed, with no more digits than it takes. -/
def Placeholder.spelling (request : Placeholder) : Spelling where
  address := request.selector.printed
  sign := if request.forceSign then ['+'] else []
  pad := (request.pad.map Pad.printed).getD []
  justify := if request.leftJustify then ['-'] else []
  width := (request.width.map (Nat.toDigits 10)).getD []
  precision := (request.precision.map ('.' :: Nat.toDigits 10 ·)).getD []
  conversion := request.conversion.char

/-- A piece as it is printed. -/
def Piece.printed : Piece → List Char
  | .literal text => text.toList
  | .percent => ['%', '%']
  | .placeholder request => request.spelling.text

/-- A piece with the characters it is printed with. -/
def Piece.part (piece : Piece) : Part := ⟨piece.printed, piece⟩

/-- Pieces as they are printed, one after the other. -/
def printed (pieces : List Piece) : String :=
  String.ofList (pieces.flatMap Piece.printed)

/-- A segment that a key can spell. -/
def Segment.WellFormed : Segment → Prop
  | .field name => IsName name.toList
  | .element index => index < 0x10000000000000000

/-- A selector that a placeholder can spell: numbers count from one, and paths begin in a field. -/
def Selector.WellFormed : Selector → Prop
  | .next => True
  | .number position => 1 ≤ position ∧ position < 0x10000000000000000
  | .path segments =>
    (∃ name steps, segments = .field name :: steps) ∧ ∀ segment ∈ segments, segment.WellFormed

/-- A placeholder that can be spelled. -/
structure Placeholder.WellFormed (request : Placeholder) : Prop where
  selector : request.selector.WellFormed
  /-- A dollar sign cannot be quoted. -/
  pad : request.pad ≠ some (.character '$')
  width : ∀ width ∈ request.width, width < 0x10000000000000000
  /-- A width of zero would be taken for a pad unless something stands in front of it. -/
  apart : request.width = some 0 → request.pad ≠ none ∨ request.leftJustify
  precision : ∀ precision ∈ request.precision, precision < 0x10000000000000000

/-- A piece that can be spelled. -/
def Piece.WellFormed : Piece → Prop
  | .literal text => text ≠ "" ∧ '%' ∉ text.toList
  | .percent => True
  | .placeholder request => request.WellFormed

/-- Pieces that can be spelled one after the other and read apart again. -/
structure WellFormed (pieces : List Piece) : Prop where
  each : ∀ piece ∈ pieces, piece.WellFormed
  apart : pieces.IsChain Piece.Apart
  unmixed : Unmixed pieces

/-- A placeholder without any of the optional fields. -/
def Placeholder.plain (selector : Selector) (conversion : Conversion) : Placeholder where
  selector
  forceSign := false
  pad := none
  leftJustify := false
  width := none
  precision := none
  conversion

/-- A placeholder without optional fields can be spelled when its selector can. -/
theorem Placeholder.plain_wellFormed (selector : Selector) (conversion : Conversion)
    (valid : selector.WellFormed) : (Placeholder.plain selector conversion).WellFormed :=
  ⟨valid, nofun, nofun, nofun, nofun⟩

/-- The digits of a number that fits in 64 bits spell it. -/
theorem spellsNumber_toDigits {number : Nat} (bounded : number < 0x10000000000000000) :
    SpellsNumber (Nat.toDigits 10 number) number :=
  -- Reading digits gives back the number that they were made of.
  ⟨Nat.toDigits_ne_nil, fun _ => Nat.isDigit_of_mem_toDigits (by decide) (by decide),
    Nat.ofDigitChars_ten_toDigits, bounded⟩

/-- A number whose digits begin with no zero is positive. -/
theorem SpellsNumber.positive {digits : List Char} {number : Nat}
    (spelled : SpellsNumber digits number) (nonzero : digits.head? ≠ some '0') : 1 ≤ number := by
  obtain ⟨c, rest, rfl⟩ := List.exists_cons_of_ne_nil spelled.nonempty
  have digit := spelled.digits c (by simp)
  have other : c ≠ '0' := fun zero => nonzero (by rw [zero]; rfl)
  -- The first digit is above zero, and it counts at least once.
  have leading : 1 ≤ c.toNat - '0'.toNat := by
    have low : '0'.toNat ≠ c.toNat := fun same => other (Char.toNat_inj.mp same.symm)
    simp only [Char.isDigit, Bool.and_eq_true, decide_eq_true_eq, ge_iff_le,
      UInt32.le_iff_toNat_le] at digit
    have least : '0'.toNat ≤ c.toNat := digit.1
    omega
  rw [← spelled.value, Nat.ofDigitChars_cons, Nat.ofDigitChars_eq_ofDigitChars_zero,
    Nat.mul_zero, Nat.zero_add]
  have power : 1 ≤ 10 ^ rest.length := Nat.one_le_pow _ _ (by decide)
  exact Nat.le_add_right_of_le (Nat.mul_le_mul power leading)

/-- Steps are spelled as they are printed. -/
theorem spellsSteps_step {steps : List Segment} (valid : ∀ segment ∈ steps, segment.WellFormed) :
    SpellsSteps (steps.flatMap Segment.step) steps := by
  induction steps with
  | nil => exact .done
  | cons segment steps ih =>
    have onward := ih fun other member => valid other (by simp [member])
    have first := valid segment (by simp)
    -- The first step is spelled by its own constructor, and the others by induction.
    cases segment with
    | field name =>
      have step := SpellsSteps.field first onward
      rwa [String.ofList_toList] at step
    | element index =>
      have step := SpellsSteps.element (spellsNumber_toDigits first) onward
      simpa [Segment.step] using step

/-- Steps that are spelled can be spelled. -/
theorem SpellsSteps.wellFormed {cs : List Char} {steps : List Segment}
    (spelled : SpellsSteps cs steps) : ∀ segment ∈ steps, segment.WellFormed := by
  -- Every step carries the name or the number that it needs.
  induction spelled with
  | done => simp
  | field named _ ih => simpa [Segment.WellFormed, named] using ih
  | element number _ ih => simpa [Segment.WellFormed, number.bounded] using ih

/-- A path is spelled as it is printed. -/
theorem spellsPath_pathText {segments : List Segment}
    (valid : (Selector.path segments).WellFormed) : SpellsPath (pathText segments) segments := by
  -- The first field goes without a point, and the steps follow it.
  obtain ⟨⟨name, steps, rfl⟩, each⟩ := valid
  have named : IsName name.toList := each (.field name) (by simp)
  have path := SpellsPath.path named
    (spellsSteps_step fun other member => each other (List.mem_cons_of_mem _ member))
  rwa [String.ofList_toList] at path

/-- A selector is spelled as it is printed. -/
theorem Selector.WellFormed.spells {selector : Selector} (valid : selector.WellFormed) :
    SpellsSelector selector.printed selector := by
  -- Each kind of selector has one way to be printed.
  cases selector with
  | next => exact .next
  | number position => exact .number (spellsNumber_toDigits valid.2) (head?_toDigits valid.1)
  | path segments => exact .path (spellsPath_pathText valid)

/-- A selector that is spelled can be spelled. -/
theorem SpellsSelector.wellFormed {cs : List Char} {selector : Selector}
    (spelled : SpellsSelector cs selector) : selector.WellFormed := by
  cases spelled with
  | next => trivial
  | number number nonzero => exact ⟨number.positive nonzero, number.bounded⟩
  | path path =>
    cases path with
    | path named onward =>
      -- A path begins with the field of its name.
      refine ⟨⟨_, _, rfl⟩, ?_⟩
      simpa [Segment.WellFormed, named] using onward.wellFormed

/-- A placeholder is spelled as it is printed. -/
theorem Placeholder.WellFormed.spells {request : Placeholder} (valid : request.WellFormed) :
    SpellsPlaceholder request.spelling.text request := by
  obtain ⟨selector, forceSign, pad, leftJustify, width, precision, conversion⟩ := request
  -- Marks are printed as they are spelled, so only pad, width and precision need a case each.
  refine ⟨_, rfl, ⟨valid.selector.spells, rfl, ?_, rfl, ?_, ?_, .inl rfl⟩, ?_⟩
  · match pad, valid.pad with
    | none, _ => exact .missing
    | some .zero, _ => exact .zero
    | some (.character c), other => exact .quoted fun dollar => other (by rw [dollar])
  · cases width with
    | none => exact .missing
    | some width => exact .digits (spellsNumber_toDigits (valid.width width rfl))
  · cases precision with
    | none => exact .missing
    | some precision => exact .digits (spellsNumber_toDigits (valid.precision precision rfl))
  · -- Where a width follows the sign directly, it is not zero.
    intro noPad noJustify
    cases width with
    | none => simp [Placeholder.spelling]
    | some width =>
      refine head?_toDigits (Nat.one_le_iff_ne_zero.mpr fun zero => ?_)
      rcases valid.apart (congrArg some zero) with padded | justified
      · match pad, padded with
        | some .zero, _ => simp [Placeholder.spelling, Pad.printed] at noPad
        | some (.character c), _ => simp [Placeholder.spelling, Pad.printed] at noPad
      · cases justified
        simp [Placeholder.spelling] at noJustify

/-- A placeholder that is spelled can be spelled. -/
theorem SpellsPlaceholder.wellFormed {cs : List Char} {request : Placeholder}
    (spelled : SpellsPlaceholder cs request) : request.WellFormed := by
  obtain ⟨⟨address, sign, pad, justify, width, precision, conversion⟩, _, ⟨selector, format⟩,
    zeroPads⟩ := spelled
  obtain ⟨selected, forceSign, padded, leftJustify, wide, precise, converted⟩ := request
  obtain ⟨_, pad, justify, width, precision, _⟩ := format
  refine ⟨selector.wellFormed, ?_, ?_, ?_, ?_⟩
  · -- No pad spells a quoted dollar sign.
    intro dollar
    subst dollar
    cases pad with
    | quoted other => exact other rfl
  · intro bound asked
    cases asked
    cases width with
    | digits number => exact number.bounded
  · intro zero
    subst zero
    -- With neither pad nor mark, the zero of the width would have been the pad.
    by_contra alone
    obtain ⟨noPad, noJustify⟩ := not_or.mp alone
    rw [ne_eq, Decidable.not_not] at noPad
    subst noPad
    cases pad
    rw [SpellsFlag, if_neg noJustify] at justify
    cases width with
    | digits number =>
      have positive := number.positive (zeroPads rfl justify)
      contradiction
  · intro bound asked
    cases asked
    cases precision with
    | digits number => exact number.bounded

/-- A piece that can be spelled is spelled as it is printed. -/
theorem Piece.WellFormed.follows {piece : Piece} (valid : piece.WellFormed) :
    piece.part.Follows SpellsPlaceholder := by
  cases piece with
  | literal text =>
    -- The characters of the literal are those of the part.
    have nonempty : text.toList ≠ [] := by simpa using valid.1
    have follows : Part.Follows SpellsPlaceholder _ := .literal nonempty valid.2
    rwa [String.ofList_toList] at follows
  | percent => exact .percent
  | placeholder request => exact .placeholder (Placeholder.WellFormed.spells valid)

/-- The piece of a part can be spelled. -/
theorem Part.Follows.wellFormed {part : Part} (follows : part.Follows SpellsPlaceholder) :
    part.piece.WellFormed := by
  -- What a part spells is what its piece needs.
  cases follows with
  | @literal text nonempty clean => exact ⟨by simpa using nonempty, by simpa using clean⟩
  | percent => trivial
  | placeholder spelled => exact spelled.wellFormed

/-- Pieces that can be spelled are a decomposition of their printed text. -/
theorem WellFormed.decomposes {pieces : List Piece} (valid : WellFormed pieces) :
    Decomposes SpellsPlaceholder (printed pieces).toList (pieces.map Piece.part) := by
  -- The parts carry the pieces themselves.
  have kept : (pieces.map Piece.part).map Part.piece = pieces := by
    rw [List.map_map]
    exact List.map_id pieces
  refine ⟨?_, ?_, kept.symm ▸ valid.apart, kept.symm ▸ valid.unmixed⟩
  -- The printed text is the characters of the parts one after the other.
  · rw [printed, String.toList_ofList, written, List.flatMap_map]
    rfl
  · intro part member
    obtain ⟨piece, inside, rfl⟩ := List.mem_map.mp member
    exact (valid.each piece inside).follows

/-- The pieces of a decomposition can be spelled. -/
theorem Decomposes.wellFormed {cs : List Char} {parts : List Part}
    (decomposes : Decomposes SpellsPlaceholder cs parts) : WellFormed (parts.map Part.piece) := by
  -- The conditions on neighbours and on selectors are those of a decomposition.
  refine ⟨fun piece member => ?_, decomposes.apart, decomposes.unmixed⟩
  obtain ⟨part, inside, rfl⟩ := List.mem_map.mp member
  exact (decomposes.forms part inside).wellFormed

/-- Pieces that can be spelled are read back from their printed text, each where it is printed. -/
theorem WellFormed.parse_printed {pieces : List Piece} (valid : WellFormed pieces) :
    Template.parse (printed pieces) =
      .ok ⟨printed pieces, layOut 0 (pieces.map Piece.part)⟩ :=
  parse_eq_ok_iff.mpr ⟨_, valid.decomposes, rfl⟩

/-- Printing and reading are inverse.

Pieces that can be spelled are read back from their printed text, each where it is printed, and
the pieces of every template can be spelled and are read back so. -/
theorem parse_printed_inverse :
    (∀ pieces, WellFormed pieces →
      Template.parse (printed pieces) =
        .ok ⟨printed pieces, layOut 0 (pieces.map Piece.part)⟩) ∧
    ∀ source template, Template.parse source = .ok template →
      WellFormed (template.nodes.map Node.piece) ∧
      ∃ again, Template.parse (printed (template.nodes.map Node.piece)) = .ok again ∧
        again.nodes.map Node.piece = template.nodes.map Node.piece := by
  refine ⟨fun pieces valid => valid.parse_printed, fun source template parsed => ?_⟩
  -- The nodes of a template are parts that are spelled, so their pieces can be.
  obtain ⟨parts, decomposes, rfl⟩ := parse_eq_ok_iff.mp parsed
  rw [map_piece_layOut]
  refine ⟨decomposes.wellFormed, _, decomposes.wellFormed.parse_printed, ?_⟩
  rw [map_piece_layOut, List.map_map]
  exact List.map_id _

/-- A quoted percent sign, a width of zero behind a minus and a quoted digit are read back. -/
theorem parse_printed_inverse_quoted :
    ∃ pieces, WellFormed pieces ∧ printed pieces = "é%%%12$'%-0.3d%'05s" ∧
      Template.parse "é%%%12$'%-0.3d%'05s" =
        .ok ⟨"é%%%12$'%-0.3d%'05s", layOut 0 (pieces.map Piece.part)⟩ ∧
      ∃ again, Template.parse "é%%%12$'%-0.3d%'05s" = .ok again ∧
        again.nodes.map Node.piece = pieces := by
  let narrow : Placeholder := ⟨.number 12, false, some (.character '%'), true, some 0, some 3,
    .decimal⟩
  let wide : Placeholder := ⟨.next, false, some (.character '0'), false, some 5, none, .text⟩
  let pieces : List Piece := [.literal "é", .percent, .placeholder narrow, .placeholder wide]
  have text : printed pieces = "é%%%12$'%-0.3d%'05s" := by decide
  have valid : WellFormed pieces := by
    refine ⟨?_, ?_, ?_⟩
    · have narrowValid : narrow.WellFormed :=
        ⟨by simp [narrow, Selector.WellFormed], by decide, by decide, by decide,
          by decide⟩
      have wideValid : wide.WellFormed :=
        ⟨trivial, by decide, by decide, by decide, by decide⟩
      simp [pieces, Piece.WellFormed, narrowValid, wideValid]
    · simp [pieces, Piece.Apart, Piece.isLiteral]
    · simp [pieces, Unmixed, Selector.IsPath, narrow, wide]
  have parsed := parse_printed_inverse.1 pieces valid
  have kept : (layOut 0 (pieces.map Piece.part)).map Node.piece = pieces := map_piece_layOut 0 _
  obtain ⟨_, again⟩ := parse_printed_inverse.2 _ _ parsed
  rw [kept] at again
  rw [text] at parsed again
  exact ⟨pieces, valid, text, parsed, again⟩

end TextTemplate
