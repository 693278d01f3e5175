import TextTemplate.Proofs.Template.Parts

/-! Reading a template takes one part after the other, up to the first fault.

A text of whole parts fails only where a placeholder mixes addressing. -/

namespace TextTemplate

/-- Whether a piece addresses arguments otherwise than those before it. -/
def Piece.conflicts (addressing : Option Addressing) (piece : Piece) : Bool :=
  piece.addressing?.any fun own => addressing.any (· ≠ own)

/-- The stretch of the first node that addresses arguments otherwise than those before it. -/
def firstConflict (addressing : Option Addressing) : List Node → Option Span
  | [] => none
  | node :: nodes =>
    if node.piece.conflicts addressing then some node.span
    else firstConflict (node.piece.addressing?.or addressing) nodes

/-- The way of addressing that pieces leave allowed, which is that of the last placeholder. -/
def addressingBehind (addressing : Option Addressing) : List Piece → Option Addressing
  | [] => addressing
  | piece :: pieces => addressingBehind (piece.addressing?.or addressing) pieces

/-- The error for a percent sign that begins no placeholder, with the text behind it. -/
def PlaceholderFault.error (position : Nat) (rest : List Char) : PlaceholderFault → ParseError
  | .unexpected => .unexpected position (String.ofList ('%' :: rest))
  | .keyPath key => .keyPath (position + 2) (String.ofList key)

/-- A percent sign asks for no placeholder behind another. -/
theorem readPlaceholder_percent (rest : List Char) :
    readPlaceholder ('%' :: rest) = .error .unexpected := by
  -- Every optional field is missing, and a percent sign asks for no conversion.
  have stops : ∀ c ∈ ('%' :: rest).head?, c.isDigit = false := by
    intro c first
    cases first
    rfl
  have address : readAddress ('%' :: rest) = (.next, '%' :: rest) :=
    readAddress_next (by simp) (by simp [readPosition?_none stops])
  have conversion : readConversion? ('%' :: rest) = none := rfl
  rw [readPlaceholder_eq, address]
  simp [readFormat?, readFlag, readPad, readWidth, readNumber?_none stops, readPrecision?,
    conversion]

/-- Where a placeholder or a key is read, no second percent sign stands in front. -/
theorem head?_ne_percent {cs : List Char} (read : readPlaceholder cs ≠ .error .unexpected) :
    cs.head? ≠ some '%' := by
  -- A second percent sign would be unexpected.
  intro double
  obtain ⟨rest, rfl⟩ := List.head?_eq_some_iff.mp double
  exact read (readPlaceholder_percent rest)

/-- The first part of a text is taken whole, and its node stands before those of the rest. -/
theorem readNodes_part {part : Part} (follows : part.Follows SpellsPlaceholder)
    {rest : List Char} (whole : part.piece.isLiteral → ∀ c ∈ rest.head?, c = '%')
    (position : Nat) (addressing : Option Addressing) :
    readNodes position addressing (part.text ++ rest) =
      if part.piece.conflicts addressing then
        .error (.mixed ⟨position, position + byteLength part.text⟩)
      else
        (readNodes (position + byteLength part.text) (part.piece.addressing?.or addressing)
          rest).map (⟨⟨position, position + byteLength part.text⟩, part.piece⟩ :: ·) := by
  cases follows with
  | @literal text nonempty clean =>
    obtain ⟨c, text, rfl⟩ := List.exists_cons_of_ne_nil nonempty
    -- A literal runs up to the percent sign that follows it.
    have inside : ∀ d ∈ text, decide (d ≠ '%') = true := by
      intro d member
      simp only [decide_eq_true_eq]
      intro same
      exact clean (List.mem_cons_of_mem c (same ▸ member))
    have stops : ∀ d ∈ rest.head?, decide (d ≠ '%') = false := by
      intro d first
      simp [whole rfl d first]
    obtain ⟨taken, left⟩ := takeWhile_dropWhile_append inside stops
    have other : c ≠ '%' := fun same => clean (by simp [same])
    rw [List.cons_append, readNodes]
    · simp only [taken, left, Piece.conflicts, Piece.addressing?, Option.any_none, Option.none_or,
        Bool.false_eq_true, if_false]
      cases readNodes (position + byteLength (c :: text)) addressing rest <;> rfl
    · exact fun _ marked => absurd marked other
    · exact fun marked => absurd marked other
  -- Two percent signs are a piece of two bytes.
  | percent =>
    have two : byteLength ['%', '%'] = 2 := rfl
    rw [List.cons_append, List.cons_append, List.nil_append, readNodes]
    simp only [two, Piece.conflicts, Piece.addressing?, Option.any_none, Option.none_or,
      Bool.false_eq_true, if_false]
    cases readNodes (position + 2) addressing rest <;> rfl
  | @placeholder text request spelled =>
    obtain ⟨body, rfl, reads⟩ := spelled.read
    -- A second percent sign would not have been read as a placeholder.
    have single : (body ++ rest).head? ≠ some '%' := head?_ne_percent (by simp [reads])
    -- The reader counts the bytes that are left, which gives those of the part.
    have size : position + 1 + (byteLength (body ++ rest) - byteLength rest) =
        position + byteLength ('%' :: body) := by
      have one : '%'.utf8Size = 1 := rfl
      rw [byteLength_append, byteLength, one]
      omega
    rw [List.cons_append, readNodes]
    · split
      · rename_i read
        -- The placeholder is read, so neither fault comes up.
        rw [reads rest] at read
        contradiction
      · rename_i read
        rw [reads rest] at read
        contradiction
      · rename_i read
        rw [reads rest] at read
        cases read
        simp only [size]
        split
        · rename_i mixes
          exact (if_pos mixes).symm
        · rename_i alike
          rw [show (Piece.placeholder request).addressing?.or addressing =
            some request.selector.addressing from rfl]
          refine Eq.trans ?_ (if_neg alike).symm
          cases readNodes _ (some request.selector.addressing) rest <;> rfl
    · exact fun more same => single (by rw [same]; rfl)

/-- A percent sign that begins no placeholder ends the reading with its error. -/
theorem readNodes_fault {rest : List Char} {fault : PlaceholderFault}
    (read : readPlaceholder rest = .error fault) (single : rest.head? ≠ some '%')
    (position : Nat) (addressing : Option Addressing) :
    readNodes position addressing ('%' :: rest) = .error (fault.error position rest) := by
  -- The second percent sign is excluded, so the placeholder is tried, and it fails.
  rw [readNodes]
  · split
    · rename_i unexpected
      rw [read] at unexpected
      cases unexpected
      rfl
    · rename_i keyPath
      rw [read] at keyPath
      cases keyPath
      rfl
    · rename_i accepted
      rw [read] at accepted
      contradiction
  · intro more same
    exact absurd (by rw [same]; rfl) single

/-- A text is a part and what follows it, or begins with a percent sign that is out of place. -/
theorem exists_part {cs : List Char} (nonempty : cs ≠ []) :
    (∃ (part : Part) (rest : List Char), cs = part.text ++ rest ∧
      part.Follows SpellsPlaceholder ∧ (part.piece.isLiteral → ∀ c ∈ rest.head?, c = '%')) ∨
    ∃ rest fault, cs = '%' :: rest ∧ rest.head? ≠ some '%' ∧
      readPlaceholder rest = .error fault := by
  obtain ⟨c, rest, rfl⟩ := List.exists_cons_of_ne_nil nonempty
  -- Only a percent sign can be out of place.
  by_cases marked : c = '%'
  · subst marked
    -- A second percent sign makes a pair of the two.
    by_cases double : rest.head? = some '%'
    · obtain ⟨rest, rfl⟩ := List.head?_eq_some_iff.mp double
      exact .inl ⟨_, rest, rfl, .percent, by simp [Piece.isLiteral]⟩
    · -- Without a second percent sign a placeholder is read or a fault is found.
      cases read : readPlaceholder rest with
      | error fault => exact .inr ⟨rest, fault, rfl, double, read⟩
      | ok pair =>
        obtain ⟨request, more⟩ := pair
        obtain ⟨body, rfl, spelled⟩ := readPlaceholder_spells read
        exact .inl ⟨_, more, rfl, .placeholder spelled, by simp [Piece.isLiteral]⟩
  · -- Literal text runs up to the next percent sign.
    refine .inl ⟨⟨c :: rest.takeWhile (· ≠ '%'), _⟩, rest.dropWhile (· ≠ '%'), ?_,
      .literal (by simp) ?_, ?_⟩
    · rw [List.cons_append, List.takeWhile_append_dropWhile]
    · intro member
      rcases List.mem_cons.mp member with same | member
      · exact marked same.symm
      · simpa using List.mem_takeWhile_imp member
    · intro _ d first
      simpa using head?_dropWhile_stops (· ≠ '%') rest d first

/-- A text is a row of parts that ends with the text or before a percent sign out of place. -/
theorem exists_parts (cs : List Char) :
    ∃ parts rest, cs = written parts ++ rest ∧ (∀ part ∈ parts, part.Follows SpellsPlaceholder) ∧
      (parts.map Part.piece).IsChain Piece.Apart ∧ (rest = [] ∨ ∃ more fault, rest = '%' :: more ∧
        more.head? ≠ some '%' ∧ readPlaceholder more = .error fault) := by
  -- Each part takes at least one character, so the text behind it is shorter.
  induction size : cs.length using Nat.strong_induction_on generalizing cs with
  | _ count ih =>
    by_cases empty : cs = []
    · exact ⟨[], [], by simp [empty], by simp, .nil, .inl rfl⟩
    · rcases exists_part empty with ⟨part, rest, rfl, follows, whole⟩ | fault
      · -- What is behind the first part is shorter, so it splits by induction.
        have shorter : rest.length < count := by
          have := List.length_pos_iff.mpr follows.nonempty
          rw [List.length_append] at size
          omega
        obtain ⟨parts, left, rfl, forms, apart, ends⟩ := ih _ shorter rest rfl
        refine ⟨part :: parts, left, by simp, ?_, ?_, ends⟩
        · simpa [follows] using forms
        · refine List.isChain_cons.mpr ⟨fun piece first => ?_, apart⟩
          -- A literal runs up to a percent sign, where no literal begins.
          rw [List.head?_map, Option.mem_def, Option.map_eq_some_iff] at first
          obtain ⟨next, first, rfl⟩ := first
          obtain ⟨parts, rfl⟩ := List.head?_eq_some_iff.mp first
          intro both
          obtain ⟨literal, nextLiteral⟩ := both
          have begins := whole literal
          rw [written_cons, List.append_assoc, (forms next (by simp)).opens_iff] at begins
          rw [begins] at nextLiteral
          contradiction
      · exact ⟨[], cs, by simp, by simp, .nil, .inr fault⟩

/-- Whole parts are read one after the other unless addressing is mixed.

What follows them must not go on with literal text. -/
theorem readNodes_written {parts : List Part}
    (forms : ∀ part ∈ parts, part.Follows SpellsPlaceholder)
    (apart : (parts.map Part.piece).IsChain Piece.Apart) (rest : List Char)
    (ends : ∀ c ∈ rest.head?, c = '%') (position : Nat) (addressing : Option Addressing) :
    readNodes position addressing (written parts ++ rest) =
      match firstConflict addressing (layOut position parts) with
      | some span => .error (.mixed span)
      | none => (readNodes (position + byteLength (written parts))
          (addressingBehind addressing (parts.map Part.piece)) rest).map
            (layOut position parts ++ ·) := by
  -- The state of the reader moves on over each part, which the conflict does likewise.
  induction parts generalizing position addressing with
  | nil =>
    simp only [written_nil, List.nil_append, layOut, firstConflict, byteLength, Nat.add_zero,
      List.map_nil, addressingBehind]
    cases readNodes position addressing rest <;> rfl
  | cons part parts ih =>
    obtain ⟨beside, apart⟩ := List.isChain_cons.mp apart
    -- A literal ends where the next part begins with a percent sign, or the row ends.
    have whole : part.piece.isLiteral → ∀ c ∈ (written parts ++ rest).head?, c = '%' := by
      intro literal
      cases parts with
      | nil => exact ends
      | cons next parts =>
        rw [written_cons, List.append_assoc, (forms next (by simp)).opens_iff]
        have other := beside next.piece rfl
        simpa [Piece.Apart, literal] using other
    rw [written_cons, List.append_assoc, readNodes_part (forms part (by simp)) whole,
      ih (fun next member => forms next (by simp [member])) apart]
    simp only [layOut, firstConflict]
    by_cases conflicts : part.piece.conflicts addressing = true
    · simp only [if_pos conflicts]
    · simp only [if_neg conflicts, List.map_cons, addressingBehind, byteLength_append,
        Nat.add_assoc]
      cases firstConflict _ (layOut (position + byteLength part.text) parts) with
      | some span => rfl
      | none =>
        simp only
        cases readNodes _ _ rest <;> rfl

/-- Behind a placeholder, nodes conflict unless they all address arguments like it. -/
theorem firstConflict_some_eq_none_iff {addressing : Addressing} {nodes : List Node} :
    firstConflict (some addressing) nodes = none ↔
      ∀ node ∈ nodes, ∀ own ∈ node.piece.addressing?, own = addressing := by
  induction nodes with
  | nil => simp [firstConflict]
  | cons node nodes ih =>
    cases found : node.piece.addressing? with
    | none => simp [firstConflict, Piece.conflicts, found, ih]
    | some own =>
      -- A placeholder that addresses arguments alike leaves the same way allowed.
      by_cases same : own = addressing
      · simp [firstConflict, Piece.conflicts, found, same, ih]
      · simp [firstConflict, Piece.conflicts, found, same, Ne.symm same]

/-- Nodes conflict unless they share one way of addressing arguments. -/
theorem firstConflict_none_eq_none_iff {nodes : List Node} :
    firstConflict none nodes = none ↔
      ∃ addressing, ∀ node ∈ nodes, ∀ own ∈ node.piece.addressing?, own = addressing := by
  induction nodes with
  | nil => simpa [firstConflict] using ⟨Addressing.named⟩
  | cons node nodes ih =>
    -- The first placeholder fixes the way of addressing.
    cases found : node.piece.addressing? with
    | none => simp [firstConflict, Piece.conflicts, found, ih]
    | some own =>
      simp [firstConflict, Piece.conflicts, found, firstConflict_some_eq_none_iff]

/-- Pieces are not mixed exactly when they share one way of addressing arguments. -/
theorem unmixed_iff {pieces : List Piece} :
    Unmixed pieces ↔
      ∃ addressing, ∀ piece ∈ pieces, ∀ own ∈ piece.addressing?, own = addressing := by
  rw [unmixed_iff_map]
  constructor
  · intro unmixed
    -- A named placeholder excludes the positional ones.
    by_cases named : some .named ∈ pieces.map Piece.addressing?
    · refine ⟨.named, fun piece member own found => ?_⟩
      cases own with
      | named => rfl
      | positional => exact absurd ⟨named, List.mem_map.mpr ⟨piece, member, found⟩⟩ unmixed
    · refine ⟨.positional, fun piece member own found => ?_⟩
      cases own with
      | named => exact absurd (List.mem_map.mpr ⟨piece, member, found⟩) named
      | positional => rfl
  · intro common mixed
    obtain ⟨addressing, shared⟩ := common
    obtain ⟨named, positional⟩ := mixed
    obtain ⟨piece, member, found⟩ := List.mem_map.mp named
    obtain ⟨other, otherMember, otherFound⟩ := List.mem_map.mp positional
    have same := (shared piece member _ found).trans (shared other otherMember _ otherFound).symm
    contradiction

/-- Nodes conflict exactly when their pieces are mixed. -/
theorem firstConflict_eq_none_iff {nodes : List Node} :
    firstConflict none nodes = none ↔ Unmixed (nodes.map Node.piece) := by
  rw [firstConflict_none_eq_none_iff, unmixed_iff]
  simp

/-- A template is read exactly where its text decomposes, and its nodes lay out the parts. -/
theorem parse_eq_ok_iff {source : String} {template : Template} :
    Template.parse source = .ok template ↔
      ∃ parts, Decomposes SpellsPlaceholder source.toList parts ∧
        template = ⟨source, layOut 0 parts⟩ := by
  constructor
  · intro parsed
    -- The text is split up to its first fault, and the reader takes the parts before it.
    obtain ⟨parts, rest, text, forms, apart, ends⟩ := exists_parts source.toList
    have stops : ∀ c ∈ rest.head?, c = '%' := by
      rcases ends with rfl | ⟨more, fault, rfl, _⟩ <;> simp
    rw [Template.parse, text, readNodes_written forms apart rest stops] at parsed
    cases conflict : firstConflict none (layOut 0 parts) with
    | some span => simp [conflict, Except.map] at parsed
    | none =>
      have unmixed := firstConflict_eq_none_iff.mp conflict
      rw [map_piece_layOut] at unmixed
      -- A fault would have been reported.
      rcases ends with rfl | ⟨more, fault, rfl, single, read⟩
      · simp [conflict, readNodes, Except.map] at parsed
        exact ⟨parts, ⟨by simpa using text.symm, forms, apart, unmixed⟩, parsed.symm⟩
      · simp [conflict, readNodes_fault read single, Except.map] at parsed
  · intro decomposition
    obtain ⟨parts, ⟨whole, forms, apart, unmixed⟩, rfl⟩ := decomposition
    rw [← map_piece_layOut 0, ← firstConflict_eq_none_iff] at unmixed
    have read := readNodes_written forms apart [] (by simp) 0 none
    rw [List.append_nil, whole, unmixed] at read
    simp [Template.parse, read, readNodes, Except.map]

/-- A placeholder alone is read as a template of one node. -/
theorem parse_placeholder {cs : List Char} {request : Placeholder}
    (spelled : SpellsPlaceholder cs request) :
    Template.parse (String.ofList cs) =
      .ok ⟨String.ofList cs, [⟨⟨0, byteLength cs⟩, .placeholder request⟩]⟩ := by
  have decomposes : Decomposes SpellsPlaceholder (String.ofList cs).toList
      [⟨cs, .placeholder request⟩] := by
    refine ⟨?_, ?_, ?_, ?_⟩
    · simp
    · intro part only
      rw [List.mem_singleton.mp only]
      exact .placeholder spelled
    · simp
    · -- One placeholder shares its way of addressing with no other.
      apply unmixed_iff.mpr
      refine ⟨request.selector.addressing, ?_⟩
      simp [Piece.addressing?]
  refine parse_eq_ok_iff.mpr ⟨_, decomposes, ?_⟩
  simp [layOut]

end TextTemplate
