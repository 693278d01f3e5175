import TextTemplate.Proofs.Template.Nodes

/-! Reading accepts exactly the texts of the grammar and returns their only decomposition. -/

namespace TextTemplate

/-- Nodes cover a stretch without gaps, in order, and each of them covers some of it. -/
def Contiguous (start : Nat) : List Node → Nat → Prop
  | [], stop => start = stop
  | node :: nodes, stop =>
    node.span.start = start ∧ start < node.span.stop ∧ Contiguous node.span.stop nodes stop

/-- A node stands in a text: the characters of its stretch spell its piece. -/
def Node.Stands (source : String) (node : Node) : Prop :=
  ∃ front text back, source.toList = front ++ (text ++ back) ∧
    node.span = ⟨byteLength front, byteLength front + byteLength text⟩ ∧
    Part.Follows SpellsPlaceholder ⟨text, node.piece⟩

/-- Nodes tile a text: they cover all of it, and each stands between two characters. -/
structure Tiles (source : String) (nodes : List Node) : Prop where
  cover : Contiguous 0 nodes source.utf8ByteSize
  boundaries : ∀ node ∈ nodes, String.Pos.Raw.IsValid source ⟨node.span.start⟩ ∧
    String.Pos.Raw.IsValid source ⟨node.span.stop⟩
  stands : ∀ node ∈ nodes, node.Stands source
  apart : (nodes.map Node.piece).IsChain Piece.Apart

/-- Parts are laid out without gaps. -/
theorem contiguous_layOut {parts : List Part}
    (forms : ∀ part ∈ parts, part.Follows SpellsPlaceholder) (position : Nat) :
    Contiguous position (layOut position parts) (position + byteLength (written parts)) := by
  induction parts generalizing position with
  | nil => rfl
  | cons part parts ih =>
    -- Every part takes some bytes, and the next one begins where it ends.
    have positive := byteLength_pos (forms part (by simp)).nonempty
    have rest := ih (fun next member => forms next (by simp [member]))
      (position + byteLength part.text)
    refine ⟨rfl, by simp only; omega, ?_⟩
    rwa [written_cons, byteLength_append, ← Nat.add_assoc]

/-- The node of each part stands where the part does. -/
theorem stands_layOut {source : String} (front : List Char) {parts : List Part}
    (forms : ∀ part ∈ parts, part.Follows SpellsPlaceholder)
    (whole : source.toList = front ++ written parts) :
    ∀ node ∈ layOut (byteLength front) parts, node.Stands source := by
  induction parts generalizing front with
  | nil => simp [layOut]
  | cons part parts ih =>
    intro node member
    -- The first part stands behind the front, and the others behind a longer front.
    rcases List.mem_cons.mp member with rfl | member
    · exact ⟨front, part.text, written parts, whole, rfl, forms part (by simp)⟩
    · refine ih (front ++ part.text) (fun next inside => forms next (by simp [inside]))
        (by simpa using whole) node ?_
      rwa [byteLength_append]

/-- A node that stands in a text begins and ends between two characters. -/
theorem Node.Stands.boundaries {source : String} {node : Node} (stands : node.Stands source) :
    String.Pos.Raw.IsValid source ⟨node.span.start⟩ ∧
      String.Pos.Raw.IsValid source ⟨node.span.stop⟩ := by
  obtain ⟨front, text, back, whole, place, _⟩ := stands
  -- The front ends between two characters, and so do the front and the text of the node.
  rw [place, ← byteLength_append]
  rw [← List.append_assoc] at whole
  exact ⟨isValid_byteLength (by rw [whole, List.append_assoc]), isValid_byteLength whole⟩

/-- The layout of a decomposition tiles the text. -/
theorem Decomposes.tiles {source : String} {parts : List Part}
    (decomposes : Decomposes SpellsPlaceholder source.toList parts) :
    Tiles source (layOut 0 parts) := by
  have stands : ∀ node ∈ layOut 0 parts, node.Stands source :=
    stands_layOut [] decomposes.forms decomposes.whole.symm
  -- The stretches cover the whole text, whose size is that of all parts.
  refine ⟨?_, fun node member => (stands node member).boundaries, stands, ?_⟩
  · have cover := contiguous_layOut decomposes.forms 0
    rwa [decomposes.whole, byteLength_toList, Nat.zero_add] at cover
  · rw [map_piece_layOut]
    exact decomposes.apart

/-- A text has at most one decomposition in which a zero pads wherever it can. -/
theorem Decomposes.unique {cs : List Char} {parts others : List Part}
    (decomposes : Decomposes SpellsPlaceholder cs parts)
    (decomposesToo : Decomposes SpellsPlaceholder cs others) : others = parts := by
  -- Reading the text returns the layouts of both.
  have parsed := parse_eq_ok_iff.mpr ⟨parts, by rwa [String.toList_ofList], rfl⟩
  have parsedToo := parse_eq_ok_iff.mpr ⟨others, by rwa [String.toList_ofList], rfl⟩
  rw [parsed] at parsedToo
  simp only [Except.ok.injEq, Template.mk.injEq, true_and] at parsedToo
  exact layOut_injective parsedToo.symm (decomposesToo.whole.trans decomposes.whole.symm)

/-- A part of any form can be read with a zero that pads, as a part of the same kind. -/
theorem Part.Follows.canonical {part : Part} (follows : part.Follows MaySpell) :
    ∃ other : Part, other.Follows SpellsPlaceholder ∧ other.text = part.text ∧
      other.piece.isLiteral = part.piece.isLiteral ∧
      other.piece.addressing? = part.piece.addressing? := by
  -- Only placeholders can be read otherwise, and their selectors stay.
  cases follows with
  | literal nonempty clean => exact ⟨_, .literal nonempty clean, rfl, rfl, rfl⟩
  | percent => exact ⟨_, .percent, rfl, rfl, rfl⟩
  | placeholder form =>
    obtain ⟨request, spelled, same⟩ := form.canonical
    exact ⟨_, .placeholder spelled, rfl, rfl, by simp [Piece.addressing?, same]⟩

/-- Parts of any form can be read with zeros that pad, as parts of the same kinds. -/
theorem exists_canonical {parts : List Part} (forms : ∀ part ∈ parts, part.Follows MaySpell) :
    ∃ others : List Part, (∀ part ∈ others, part.Follows SpellsPlaceholder) ∧
      others.map Part.text = parts.map Part.text ∧
      others.map (·.piece.isLiteral) = parts.map (·.piece.isLiteral) ∧
      others.map (·.piece.addressing?) = parts.map (·.piece.addressing?) := by
  induction parts with
  | nil => exact ⟨[], by simp⟩
  | cons part parts ih =>
    obtain ⟨other, follows, text, literal, addressing⟩ := (forms part (by simp)).canonical
    obtain ⟨others, followAll, texts, literals, addressings⟩ :=
      ih fun next member => forms next (by simp [member])
    -- Each part is replaced on its own.
    refine ⟨other :: others, ?_, ?_, ?_, ?_⟩
    · simpa [follows] using followAll
    · simp [text, texts]
    · simp only [List.map_cons, literal, literals]
    · simp only [List.map_cons, addressing, addressings]

/-- A text that decomposes with zeros read either way decomposes with zeros that pad. -/
theorem Decomposes.canonical {cs : List Char} {parts : List Part}
    (decomposes : Decomposes MaySpell cs parts) :
    ∃ others, Decomposes SpellsPlaceholder cs others := by
  -- The replaced parts have the same characters, so they make up the same text.
  obtain ⟨others, forms, texts, literals, addressings⟩ := exists_canonical decomposes.forms
  refine ⟨others, ?_, forms, ?_, ?_⟩
  · rw [← decomposes.whole, written, written, List.flatMap_def, texts, List.flatMap_def]
  · -- Whether parts are apart depends only on which of them are literal.
    have kinds : ∀ row : List Part, (row.map Part.piece).IsChain Piece.Apart ↔
        (row.map (·.piece.isLiteral)).IsChain fun left right : Bool => ¬(left ∧ right) := by
      intro row
      rw [List.isChain_map, List.isChain_map]
      rfl
    rw [kinds, literals, ← kinds]
    exact decomposes.apart
  · have unmixed := decomposes.unmixed
    simp only [unmixed_iff_map, List.map_map] at unmixed ⊢
    exact addressings ▸ unmixed

/-- A decomposition with zeros that pad is one of those with zeros read either way. -/
theorem Decomposes.weaken {cs : List Char} {parts : List Part}
    (decomposes : Decomposes SpellsPlaceholder cs parts) : Decomposes MaySpell cs parts := by
  refine ⟨decomposes.whole, fun part member => ?_, decomposes.apart, decomposes.unmixed⟩
  -- Forms in which a zero pads are among all forms.
  cases decomposes.forms part member with
  | literal nonempty clean => exact .literal nonempty clean
  | percent => exact .percent
  | placeholder spelled =>
    obtain ⟨spelling, written, spells, _⟩ := spelled
    exact .placeholder ⟨spelling, written, spells⟩

/-- A text is read as a template exactly when it decomposes into pieces of the grammar.

The nodes lay out its only decomposition in which a zero directly behind the argument and the sign
of a placeholder pads, and they tile the text. -/
theorem parse_accepts_grammar (source : String) :
    ((∃ template, Template.parse source = .ok template) ↔
      ∃ parts, Decomposes MaySpell source.toList parts) ∧
    ∀ template, Template.parse source = .ok template ↔
      ∃ parts, Decomposes SpellsPlaceholder source.toList parts ∧
        (∀ others, Decomposes SpellsPlaceholder source.toList others → others = parts) ∧
        template = ⟨source, layOut 0 parts⟩ ∧ Tiles source template.nodes := by
  refine ⟨⟨?_, ?_⟩, fun template => ⟨?_, ?_⟩⟩
  · intro accepted
    obtain ⟨template, parsed⟩ := accepted
    obtain ⟨parts, decomposes, _⟩ := parse_eq_ok_iff.mp parsed
    exact ⟨parts, decomposes.weaken⟩
  · -- A loose decomposition has a strict one beside it, which is read.
    intro loose
    obtain ⟨parts, decomposes⟩ := loose
    obtain ⟨others, canonical⟩ := decomposes.canonical
    exact ⟨_, parse_eq_ok_iff.mpr ⟨others, canonical, rfl⟩⟩
  · -- The nodes lay out the only strict decomposition, and the layout tiles the text.
    intro parsed
    obtain ⟨parts, decomposes, rfl⟩ := parse_eq_ok_iff.mp parsed
    exact ⟨parts, decomposes, fun _ => decomposes.unique, rfl, decomposes.tiles⟩
  · intro decomposed
    obtain ⟨parts, decomposes, _, rfl, _⟩ := decomposed
    exact parse_eq_ok_iff.mpr ⟨parts, decomposes, rfl⟩

end TextTemplate
