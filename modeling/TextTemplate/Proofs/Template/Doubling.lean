import TextTemplate.Proofs.Template.Concatenation

/-! A text stands for itself in a template once each of its percent signs is written twice. -/

namespace TextTemplate

/-- A text in which each percent sign is written twice. -/
def doubled (text : String) : String :=
  .ofList (text.toList.flatMap fun c => if c = '%' then ['%', '%'] else [c])

/-- A character as a part of its own, which is a pair of percent signs for one of them. -/
def doubledPart (c : Char) : Part :=
  if c = '%' then ⟨['%', '%'], .percent⟩ else ⟨[c], .literal (String.ofList [c])⟩

variable {parts : List Part} {args : List Value} {before after : CallHistory}

theorem doubledPart_percent : doubledPart '%' = ⟨['%', '%'], .percent⟩ := rfl

theorem doubledPart_other {c : Char} (other : c ≠ '%') :
    doubledPart c = ⟨[c], .literal (String.ofList [c])⟩ :=
  if_neg other

/-- A character of a doubled text is a part that can be read. -/
theorem follows_doubledPart (c : Char) : (doubledPart c).Follows SpellsPlaceholder := by
  by_cases percent : c = '%'
  · rw [percent, doubledPart_percent]
    exact .percent
  · -- Any other character is literal text of its own.
    rw [doubledPart_other percent]
    apply Part.Follows.literal
    · simp
    · simpa using Ne.symm percent

/-- A character of a doubled text is shown as it is, and calls nothing. -/
theorem doubledPart_render (c : Char) (args : List Value) (next : Nat) :
    (doubledPart c).piece.render args next = pure (.ok [c]) := by
  -- A pair of percent signs is shown as one.
  by_cases percent : c = '%'
  · rw [percent, doubledPart_percent]
    rfl
  · rw [doubledPart_other percent]
    simp [Piece.render]

/-- A character of a doubled text takes no argument. -/
theorem doubledPart_silent (c : Char) :
    (doubledPart c).piece.takesNext = false ∧ (doubledPart c).piece.addressing? = none := by
  -- Neither a pair of percent signs nor a literal looks at arguments.
  by_cases percent : c = '%'
  · rw [percent, doubledPart_percent]
    exact ⟨rfl, rfl⟩
  · rw [doubledPart_other percent]
    exact ⟨rfl, rfl⟩

/-- The characters of a text as parts are written as the doubled text. -/
theorem written_doubledParts (text : String) :
    String.ofList (written (text.toList.map doubledPart)) = doubled text := by
  -- Both sides write the same for each character.
  rw [written, List.flatMap_map, doubled]
  congr 2
  funext c
  unfold doubledPart
  split <;> rfl

/-- The characters of a text are shown one after the other, and call nothing. -/
theorem renderNodes_doubledParts (cs : List Char) (args : List Value) (next position : Nat)
    (before : CallHistory) :
    (renderNodes args next (layOut position (cs.map doubledPart))).outcome before =
      (.ok cs, before) := by
  induction cs generalizing position with
  | nil => rfl
  | cons c cs ih =>
    -- The first character is shown in front of the others, with the same argument in line.
    have silent := (doubledPart_silent c).1
    simp [layOut, renderNodes_cons, doubledPart_render, advance_eq, silent, ih]

/-- Nodes that are shown are shown likewise wherever they stand. -/
theorem renderNodes_moved {nodes others : List Node} {next : Nat} {text : List Char}
    (same : nodes.map Node.piece = others.map Node.piece)
    (shown : (renderNodes args next nodes).outcome before = (.ok text, after)) :
    (renderNodes args next others).outcome before = (.ok text, after) := by
  induction nodes generalizing others next before text with
  | nil =>
    have none : others = [] := by simpa using same.symm
    rw [none]
    exact shown
  | cons node nodes ih =>
    cases others with
    | nil => simp at same
    | cons other others =>
      obtain ⟨piece, rest⟩ := List.cons.inj same
      rw [renderNodes_cons] at shown ⊢
      -- Only an error would say where a node stands.
      rw [← piece]
      split at shown
      · cases shown
      · rename_i front middle first
        split at shown
        · cases shown
        · rename_i back last onward
          cases shown
          simp only [ih rest onward]

/-- Doubled texts around a template are no placeholders, so that nothing is mixed. -/
theorem unmixed_between (unmixed : Unmixed (parts.map Part.piece)) (front back : List Char) :
    Unmixed ((front.map doubledPart ++ (parts ++ back.map doubledPart)).map Part.piece) := by
  -- The template has one way of addressing, which is kept.
  obtain ⟨addressing, shared⟩ := unmixed_iff.mp unmixed
  apply unmixed_iff.mpr
  refine ⟨addressing, ?_⟩
  have silent (cs : List Char) (piece : Piece)
      (member : piece ∈ (cs.map doubledPart).map Part.piece) : piece.addressing? = none := by
    rw [List.map_map] at member
    obtain ⟨c, _, rfl⟩ := List.mem_map.mp member
    exact (doubledPart_silent c).2
  intro piece member own found
  simp only [List.map_append, List.mem_append] at member
  -- A piece that addresses an argument is one of the template.
  rcases member with member | member | member
  · rw [silent front piece member] at found
    cases found
  · exact shared piece member own found
  · rw [silent back piece member] at found
    cases found

/-- A template between doubled texts is read as the parts of all three. -/
theorem parse_between (forms : ∀ part ∈ parts, part.Follows SpellsPlaceholder)
    (unmixed : Unmixed (parts.map Part.piece)) (front back : String) :
    let whole := front.toList.map doubledPart ++ (parts ++ back.toList.map doubledPart)
    (∀ part ∈ whole, part.Follows SpellsPlaceholder) ∧
      Template.parse (doubled front ++ String.ofList (written parts) ++ doubled back) =
        .ok ⟨doubled front ++ String.ofList (written parts) ++ doubled back,
          layOut 0 (coalesce whole)⟩ := by
  intro whole
  -- Characters of the texts and parts of the template can all be read.
  have all : ∀ part ∈ whole, part.Follows SpellsPlaceholder := by
    intro part member
    simp only [whole, List.mem_append, List.mem_map] at member
    rcases member with ⟨c, _, rfl⟩ | member | ⟨c, _, rfl⟩
    · exact follows_doubledPart c
    · exact forms part member
    · exact follows_doubledPart c
  have text : String.ofList (written whole) =
      doubled front ++ String.ofList (written parts) ++ doubled back := by
    simp only [whole, written_append, String.ofList_append, written_doubledParts,
      String.append_assoc]
  -- Nothing conflicts, and literals that meet are merged.
  have alone : firstConflict none (layOut 0 whole) = none := by
    rw [firstConflict_eq_none_iff, map_piece_layOut]
    exact unmixed_between unmixed front.toList back.toList
  have read := parse_written all
  rw [alone, text] at read
  exact ⟨all, read⟩

/-- A template that is shown is shown between the texts that stand doubled around it. -/
theorem format_between (forms : ∀ part ∈ parts, part.Follows SpellsPlaceholder)
    (unmixed : Unmixed (parts.map Part.piece)) {shown : List Char}
    (rendered : (renderNodes args 1 (layOut 0 parts)).outcome before = (.ok shown, after))
    (front back : String) :
    (format (doubled front ++ String.ofList (written parts) ++ doubled back) args).outcome before =
      (.ok (front ++ String.ofList shown ++ back), after) := by
  obtain ⟨all, parsed⟩ := parse_between forms unmixed front back
  -- The text in front takes no argument, so that the template begins with the first in line.
  have none : ((layOut 0 (front.toList.map doubledPart)).map Node.piece).countP
      Piece.takesNext = 0 := by
    rw [map_piece_layOut, List.map_map, List.countP_map, List.countP_eq_zero]
    intro c _
    simp [(doubledPart_silent c).1]
  -- The three rows of parts are shown in turn, and only that of the template moves on in line.
  have moved : (renderNodes args 1 (layOut
      (0 + byteLength (written (front.toList.map doubledPart))) parts)).outcome before =
        (.ok shown, after) :=
    renderNodes_moved (by rw [map_piece_layOut, map_piece_layOut]) rendered
  rw [format_outcome parsed, (merges_coalesce all).renderNodes_eq, layOut_append, layOut_append,
    renderNodes_append, renderNodes_doubledParts]
  simp only [none, Nat.add_zero, renderNodes_append, moved, renderNodes_doubledParts]
  simp [String.append_assoc]

/-- A text is quoted by writing its percent signs twice.

A template of a quoted text alone shows the text and calls nothing, and a template that is shown
is shown between two texts when these are put around it quoted, with the same calls. -/
theorem format_doubled :
    (∀ text args before, (format (doubled text) args).outcome before = (.ok text, before)) ∧
    ∀ source args before shown after, (format source args).outcome before = (.ok shown, after) →
      ∀ front back, (format (doubled front ++ source ++ doubled back) args).outcome before =
        (.ok (front ++ shown ++ back), after) := by
  constructor
  · intro text args before
    -- The text stands in front of a template without parts.
    have empty : Unmixed (([] : List Part).map Part.piece) := by simp [Unmixed]
    have shown : (renderNodes args 1 (layOut 0 [])).outcome before = (.ok [], before) := rfl
    have alone := format_between (by simp) empty shown text ""
    simpa [doubled] using alone
  · intro source args before shown after formatted front back
    cases parsed : Template.parse source with
    | error error =>
      simp [format, parsed] at formatted
    | ok template =>
      obtain ⟨parts, decomposes, rfl⟩ := parse_eq_ok_iff.mp parsed
      -- What is shown was shown by the nodes of the template.
      rw [format_outcome parsed] at formatted
      split at formatted
      · cases formatted
      · rename_i text last rendered
        cases formatted
        have between := format_between decomposes.forms decomposes.unmixed rendered front back
        rwa [decomposes.whole, String.ofList_toList] at between

/-- Percent signs on both sides of a template are paired from the left. -/
theorem format_doubled_runs :
    doubled "%" ++ "%d%%" ++ doubled "%s" = "%%%d%%%%s" ∧
      (format "%%%d%%%%s" [.int 7]).outcome .empty = (.ok "%7%%s", .empty) := by
  let decimal := Placeholder.plain .next .decimal
  have decimalValid : decimal.WellFormed := Placeholder.plain_wellFormed .next _ trivial
  have valid : WellFormed [.placeholder decimal, .percent] :=
    ⟨by simp [Piece.WellFormed, decimalValid], by simp [Piece.Apart, Piece.isLiteral],
      by simp [Unmixed, Selector.IsPath, decimal, Placeholder.plain]⟩
  have parsed := valid.parse_printed
  -- The template alone is run, and the rest follows from the theorem.
  have shown : (format "%d%%" [.int 7]).outcome .empty = (.ok "7%", .empty) := by
    rw [show printed _ = "%d%%" by decide] at parsed
    rw [format_outcome parsed]
    rfl
  have text : doubled "%" ++ "%d%%" ++ doubled "%s" = "%%%d%%%%s" := by decide
  refine ⟨text, ?_⟩
  rw [← text]
  exact format_doubled.2 _ _ _ _ _ shown "%" "%s"

end TextTemplate
