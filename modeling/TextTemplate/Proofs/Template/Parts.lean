import Mathlib.Data.List.Chain
import TextTemplate.Proofs.Template.Placeholder
import TextTemplate.Proofs.Text.Offset

/-! A template is a row of parts, each of which spells one piece, and its nodes are their layout. -/

namespace TextTemplate

/-- A piece with the characters that spell it. -/
structure Part where
  text : List Char
  piece : Piece
  deriving DecidableEq, Repr

/-- Whether a piece is literal text. -/
def Piece.isLiteral : Piece → Bool
  | .literal _ => true
  | .percent | .placeholder _ => false

/-- How a piece addresses arguments, if it does. -/
def Piece.addressing? : Piece → Option Addressing
  | .literal _ | .percent => none
  | .placeholder request => some request.selector.addressing

/-- A part is text without a percent sign, two percent signs, or a placeholder of a given form. -/
inductive Part.Follows (form : List Char → Placeholder → Prop) : Part → Prop where
  | literal {text : List Char} :
      text ≠ [] → '%' ∉ text → Follows form ⟨text, .literal (String.ofList text)⟩
  | percent : Follows form ⟨['%', '%'], .percent⟩
  | placeholder {text : List Char} {request : Placeholder} :
      form text request → Follows form ⟨text, .placeholder request⟩

/-- The characters of parts, one part after the other. -/
def written (parts : List Part) : List Char :=
  parts.flatMap Part.text

/-- The nodes of parts that stand one after the other from a position on. -/
def layOut (position : Nat) : List Part → List Node
  | [] => []
  | part :: parts =>
    let stop := position + byteLength part.text
    ⟨⟨position, stop⟩, part.piece⟩ :: layOut stop parts

/-- Two pieces that may stand side by side: literal text is never cut in two. -/
def Piece.Apart (left right : Piece) : Prop :=
  ¬(left.isLiteral ∧ right.isLiteral)

/-- A selector leads along a path, and does not pick an argument as it stands. -/
def Selector.IsPath (selector : Selector) : Prop :=
  ∃ segments, selector = .path segments

/-- Pieces do not mix placeholders that have a path with others that have none. -/
def Unmixed (pieces : List Piece) : Prop :=
  ¬((∃ request, .placeholder request ∈ pieces ∧ request.selector.IsPath) ∧
    ∃ request, .placeholder request ∈ pieces ∧ ¬request.selector.IsPath)

/-- Parts make up a text: each has its form, literal text is whole, and addressing is not mixed. -/
structure Decomposes (form : List Char → Placeholder → Prop) (cs : List Char)
    (parts : List Part) : Prop where
  whole : written parts = cs
  forms : ∀ part ∈ parts, part.Follows form
  apart : (parts.map Part.piece).IsChain Piece.Apart
  unmixed : Unmixed (parts.map Part.piece)

instance (selector : Selector) : Decidable selector.IsPath :=
  match selector with
  | .path segments => .isTrue ⟨segments, rfl⟩
  | .next | .number _ => .isFalse nofun

/-- Arguments are addressed by name along paths, and by their position otherwise. -/
theorem addressing_eq_named_iff {selector : Selector} :
    selector.addressing = .named ↔ selector.IsPath := by
  -- Only the last of the three kinds of selectors is a path.
  cases selector <;> simp [Selector.addressing, Selector.IsPath]

/-- Two selectors address arguments alike when both of them or none of them is a path. -/
theorem addressing_eq_iff {left right : Selector} :
    left.addressing = right.addressing ↔ (left.IsPath ↔ right.IsPath) := by
  -- There are two ways of addressing, one of which belongs to paths.
  rw [← addressing_eq_named_iff, ← addressing_eq_named_iff]
  cases left.addressing <;> cases right.addressing <;> simp

/-- Two selectors address arguments differently when one of them is a path and the other is not. -/
theorem addressing_ne_iff {left right : Selector} :
    left.addressing ≠ right.addressing ↔ (left.IsPath ↔ ¬right.IsPath) := by
  rw [Ne, addressing_eq_iff, not_iff]
  exact not_iff_comm.trans iff_comm

/-- Pieces that address arguments in a given way are its placeholders. -/
theorem mem_map_addressing?_iff {pieces : List Piece} {addressing : Addressing} :
    some addressing ∈ pieces.map Piece.addressing? ↔
      ∃ request, .placeholder request ∈ pieces ∧ request.selector.addressing = addressing := by
  rw [List.mem_map]
  constructor
  · rintro ⟨piece, member, addresses⟩
    -- Literal text and percent signs address nothing.
    cases piece with
    | literal | percent => cases addresses
    | placeholder request => exact ⟨request, member, Option.some.inj addresses⟩
  · rintro ⟨request, member, rfl⟩
    exact ⟨_, member, rfl⟩

/-- Pieces are mixed when both ways of addressing arguments occur among them. -/
theorem unmixed_iff_map {pieces : List Piece} :
    Unmixed pieces ↔ ¬(some .named ∈ pieces.map Piece.addressing? ∧
      some .positional ∈ pieces.map Piece.addressing?) := by
  -- What is not addressed by name is addressed by position.
  have other (selector : Selector) : selector.addressing = .positional ↔ ¬selector.IsPath := by
    rw [← addressing_eq_named_iff]
    cases selector.addressing <;> simp
  simp only [Unmixed, mem_map_addressing?_iff, addressing_eq_named_iff, other]

/-- A part has characters. -/
theorem Part.Follows.nonempty {part : Part} (follows : part.Follows SpellsPlaceholder) :
    part.text ≠ [] := by
  -- Two of the three kinds begin with a percent sign.
  cases follows with
  | literal nonempty _ => exact nonempty
  | percent => simp
  | placeholder spelled =>
    obtain ⟨body, rfl, _⟩ := spelled.read
    simp

/-- A part begins with a percent sign exactly when it is no literal text. -/
theorem Part.Follows.opens_iff {part : Part} (follows : part.Follows SpellsPlaceholder)
    (rest : List Char) :
    (∀ c ∈ (part.text ++ rest).head?, c = '%') ↔ part.piece.isLiteral = false := by
  cases follows with
  | @literal text nonempty clean =>
    obtain ⟨c, text, rfl⟩ := List.exists_cons_of_ne_nil nonempty
    -- Literal text has no percent sign, so it does not begin with one.
    have other : c ≠ '%' := fun same => clean (by simp [same])
    simp [Piece.isLiteral, other]
  | percent => simp [Piece.isLiteral]
  | placeholder spelled =>
    obtain ⟨body, rfl, _⟩ := spelled.read
    simp [Piece.isLiteral]

@[simp] theorem written_nil : written [] = [] := rfl

@[simp] theorem written_cons (part : Part) (parts : List Part) :
    written (part :: parts) = part.text ++ written parts := rfl

@[simp] theorem written_append (left right : List Part) :
    written (left ++ right) = written left ++ written right := by
  simp [written]

/-- The layout of parts keeps their pieces. -/
theorem map_piece_layOut (position : Nat) (parts : List Part) :
    (layOut position parts).map Node.piece = parts.map Part.piece := by
  -- The position moves on from part to part.
  induction parts generalizing position with
  | nil => rfl
  | cons part parts ih => simp [layOut, ih]

/-- Parts behind others are laid out from where those end. -/
theorem layOut_append (position : Nat) (left right : List Part) :
    layOut position (left ++ right) =
      layOut position left ++ layOut (position + byteLength (written left)) right := by
  -- The second row begins behind all characters of the first.
  induction left generalizing position with
  | nil => simp [layOut, byteLength]
  | cons part left ih => simp [layOut, ih, Nat.add_assoc]

/-- The layout of parts determines them when their characters are known. -/
theorem layOut_injective {position : Nat} {left right : List Part}
    (same : layOut position left = layOut position right) (text : written left = written right) :
    left = right := by
  induction left generalizing position right with
  | nil =>
    -- Rows of different lengths have different layouts.
    cases right with
    | nil => rfl
    | cons part right => simp [layOut] at same
  | cons part left ih =>
    cases right with
    | nil => simp [layOut] at same
    | cons other right =>
      simp only [layOut, List.cons.injEq, Node.mk.injEq, Span.mk.injEq, true_and,
        Nat.add_left_cancel_iff] at same
      -- Equal sizes split the text at the same place, so the first parts are the same.
      obtain ⟨⟨size, piece⟩, rest⟩ := same
      obtain ⟨front, back⟩ := append_eq_append_of_byteLength text size
      rw [size] at rest
      rw [ih rest back, show part = other from by cases part; cases other; simp_all]

end TextTemplate
