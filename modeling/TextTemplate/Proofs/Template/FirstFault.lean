import TextTemplate.Proofs.Template.Concatenation

/-! A text that is no template is refused at its first percent sign out of place.

What stands in front of it is a template, and what stands there decides about the error. -/

namespace TextTemplate

/-- Characters have the form of a placeholder, where any key may stand between parentheses. -/
def HasForm (cs : List Char) (address : Address) : Prop :=
  ∃ (spelling : Spelling) (request : Placeholder), cs = spelling.text ∧
    SpellsAddress spelling.address address ∧ spelling.SpellsFormat request

/-- An error is the one that a percent sign calls for, by what stands in front of it and behind. -/
structure ParseError.Describes (error : ParseError) (before : Template) (front rest : List Char) :
    Prop where
  /-- No text that begins there has the form of a placeholder, whatever its key. -/
  unexpected_iff : error = .unexpected (byteLength front) (String.ofList ('%' :: rest)) ↔
    ∀ text address, text <+: '%' :: rest → ¬HasForm text address
  /-- A text has the form, and its key, which ends at the first parenthesis, is no path. -/
  keyPath_iff : ∀ key, error = .keyPath (byteLength front + 2) (String.ofList key) ↔
    (∃ text, text <+: '%' :: rest ∧ HasForm text (.key key)) ∧
      (∃ back, rest = '(' :: (key ++ ')' :: back) ∧ ')' ∉ key) ∧
      ∀ segments, ¬SpellsPath key segments
  /-- A text has the form, and its key is a path if it has one. Then it is a placeholder, and all
  those in front of it, of which there is one, have a path exactly if it has none. -/
  mixed : ∀ text address, text <+: '%' :: rest → HasForm text address →
    (∀ key, address = .key key → ∃ segments, SpellsPath key segments) →
    error = .mixed ⟨byteLength front, byteLength front + byteLength text⟩ ∧
      ∃ request, SpellsPlaceholder text request ∧ before.placeholders ≠ [] ∧
        ∀ placed ∈ before.placeholders,
          (placed.2.selector.IsPath ↔ ¬request.selector.IsPath)

/-- A text that has the form of a placeholder is read, whatever stands behind it.

Only its key can then be at fault. -/
theorem HasForm.read {text : List Char} {address : Address} (form : HasForm text address) :
    ∃ (body : List Char) (format : Placeholder), text = '%' :: body ∧
      ∀ rest, readPlaceholder (body ++ rest) =
        address.selector.map fun selector => ({ format with selector }, rest) := by
  obtain ⟨spelling, request, rfl, addressed, format⟩ := form
  obtain ⟨other, request', text, same, format, zeroPads, _⟩ := format.canonical
  rw [← same] at addressed
  -- The address is read first, then the format, and last the address is resolved.
  refine ⟨other.address ++ other.format, { request' with selector := .next }, text.symm,
    fun rest => ?_⟩
  rw [List.append_assoc, readPlaceholder_eq, format.readAddress zeroPads addressed rest]
  simp only [format.read zeroPads rest]
  cases address.selector <;> rfl

/-- A placeholder has the form of one. -/
theorem SpellsPlaceholder.hasForm {text : List Char} {request : Placeholder}
    (spelled : SpellsPlaceholder text request) :
    ∃ address, HasForm text address ∧ address.selector = .ok request.selector := by
  -- The selector comes from an address, which a form is left with.
  obtain ⟨spelling, rfl, spells, _⟩ := spelled
  obtain ⟨address, addressed, resolved⟩ := spellsSelector_iff.mp spells.selector
  exact ⟨address, ⟨spelling, request, rfl, addressed, spells.format⟩, resolved⟩

/-- A percent sign behind which a key is refused begins a text of the form with that key. -/
theorem readPlaceholder_keyPath {cs key : List Char}
    (read : readPlaceholder cs = .error (.keyPath key)) :
    ∃ body rest, cs = body ++ rest ∧ HasForm ('%' :: body) (.key key) ∧ readPath? key = none := by
  rw [readPlaceholder_eq] at read
  -- What is read is an address and a format, of which the reader has spellings.
  obtain ⟨taken, split, addressed⟩ := readAddress_spells cs
  split at read
  · cases read
  · rename_i request rest formatted
    split at read
    · rename_i fault refused
      cases read
      obtain ⟨_, spelled⟩ := Spelling.readFormat?_spells formatted
      obtain ⟨spelling, same, tail, format, _⟩ := spelled taken
      -- Only a key can be refused, and only where it is no path.
      generalize (readAddress cs).1 = address at addressed refused
      cases address with
      | next => cases refused
      | number position => cases refused
      | key text =>
        simp only [Address.selector] at refused
        split at refused
        · cases refused
        · rename_i none
          cases refused
          subst same
          refine ⟨spelling.address ++ spelling.format, rest, ?_,
            ⟨spelling, request, rfl, addressed, format⟩, none⟩
          rw [List.append_assoc, ← tail, ← split]
    · cases read

/-- A key that is refused is refused whatever stands behind the text. -/
theorem readPlaceholder_keyPath_append {cs key : List Char}
    (read : readPlaceholder cs = .error (.keyPath key)) (more : List Char) :
    readPlaceholder (cs ++ more) = .error (.keyPath key) := by
  obtain ⟨body, back, rfl, form, refused⟩ := readPlaceholder_keyPath read
  obtain ⟨_, format, same, reads⟩ := form.read
  cases same
  -- The form is read up to its end, and its key is refused.
  rw [List.append_assoc, reads, Address.selector, refused]
  rfl

/-- Nodes that conflict have a first one, in front of which nothing does. -/
theorem exists_conflict {addressing : Option Addressing} {position : Nat} {parts : List Part}
    {span : Span} (conflict : firstConflict addressing (layOut position parts) = some span) :
    ∃ left part right, parts = left ++ part :: right ∧
      firstConflict addressing (layOut position left) = none ∧
      part.piece.conflicts (addressingBehind addressing (left.map Part.piece)) := by
  induction parts generalizing addressing position with
  | nil => simp [layOut, firstConflict] at conflict
  | cons part parts ih =>
    -- The first part conflicts, or the conflict is among those behind it.
    by_cases first : part.piece.conflicts addressing
    · exact ⟨[], part, parts, rfl, rfl, first⟩
    · simp only [layOut, firstConflict, if_neg first] at conflict
      obtain ⟨left, other, right, rfl, free, conflicts⟩ := ih conflict
      refine ⟨part :: left, other, right, rfl, ?_, conflicts⟩
      simp only [layOut, firstConflict, if_neg first]
      exact free

/-- A placeholder conflicts with those in front when all of them address arguments otherwise. -/
theorem conflicts_placeholders (source : String) {parts : List Part} {request : Placeholder}
    (unmixed : Unmixed (parts.map Part.piece))
    (conflicts : (Piece.placeholder request).conflicts
      (addressingBehind none (parts.map Part.piece))) :
    (Template.mk source (layOut 0 parts)).placeholders ≠ [] ∧
      ∀ placed ∈ (Template.mk source (layOut 0 parts)).placeholders,
        (placed.2.selector.IsPath ↔ ¬request.selector.IsPath) := by
  rw [placeholders_eq]
  obtain ⟨shared, alike⟩ := unmixed_iff.mp unmixed
  rw [← map_piece_layOut 0 parts] at alike conflicts
  -- What is left allowed is the addressing of a placeholder in front, which all others share.
  rcases addressingBehind_cases none ((layOut 0 parts).map Node.piece) with
    ⟨_, none⟩ | ⟨piece, member, own, addresses, left⟩
  · simp [none, Piece.conflicts] at conflicts
  · have same := alike piece member own addresses
    subst same
    have differ : own ≠ request.selector.addressing := by
      simpa [left, Piece.conflicts, Piece.addressing?] using conflicts
    have all : ∀ placed ∈ (layOut 0 parts).filterMap Node.placeholder?,
        placed.2.selector.addressing = own :=
      addressing_shared_iff.mp fun node inside => alike node.piece (List.mem_map_of_mem inside)
    refine ⟨fun empty => ?_, fun placed inside =>
      addressing_ne_iff.mp (all placed inside ▸ differ)⟩
    -- The piece that addresses arguments is a placeholder.
    obtain ⟨node, inside, rfl⟩ := List.mem_map.mp member
    rw [addressing?_eq, Option.map_eq_some_iff] at addresses
    obtain ⟨placed, found, _⟩ := addresses
    exact List.ne_nil_of_mem (List.mem_filterMap.mpr ⟨node, inside, found⟩) empty

/-- Behind a front that is a template, reading goes on with what its placeholders leave allowed. -/
theorem parse_behind {front : List Char} {parts : List Part}
    (decomposes : Decomposes SpellsPlaceholder front parts) (rest : List Char) :
    Template.parse (String.ofList (front ++ '%' :: rest)) =
      (readNodes (byteLength front) (addressingBehind none (parts.map Part.piece))
        ('%' :: rest)).map fun nodes =>
          ⟨String.ofList (front ++ '%' :: rest), layOut 0 parts ++ nodes⟩ := by
  -- The front is read without an error, and the reader goes on behind it.
  have free := decomposes.unmixed
  rw [← map_piece_layOut 0, ← firstConflict_eq_none_iff] at free
  have read := readNodes_written decomposes.forms decomposes.apart ('%' :: rest) (by simp) 0 none
  rw [decomposes.whole, free, Nat.zero_add] at read
  rw [Template.parse, String.toList_ofList, read]
  cases readNodes _ _ ('%' :: rest) <;> rfl

/-- A text that is no template has a first percent sign out of place.

There begins no placeholder, or one that conflicts with those in front of it. -/
theorem exists_first_fault {source : String} {error : ParseError}
    (failed : Template.parse source = .error error) :
    ∃ parts rest, source.toList = written parts ++ '%' :: rest ∧
      Decomposes SpellsPlaceholder (written parts) parts ∧ rest.head? ≠ some '%' ∧
      ((∃ fault, readPlaceholder rest = .error fault) ∨
        ∃ body back request, rest = body ++ back ∧ SpellsPlaceholder ('%' :: body) request ∧
          (Piece.placeholder request).conflicts
            (addressingBehind none (parts.map Part.piece))) := by
  -- The text is cut into parts as far as that goes, and they may conflict before the end.
  obtain ⟨parts, rest, text, forms, apart, ends⟩ := exists_parts source.toList
  cases conflict : firstConflict none (layOut 0 parts) with
  | none =>
    have unmixed := firstConflict_eq_none_iff.mp conflict
    rw [map_piece_layOut] at unmixed
    have decomposes : Decomposes SpellsPlaceholder (written parts) parts :=
      ⟨rfl, forms, apart, unmixed⟩
    -- Without a conflict, the text ends at a fault, or else it would be a template.
    rcases ends with rfl | ⟨more, fault, rfl, single, read⟩
    · rw [List.append_nil] at text
      have parsed := parse_eq_ok_iff.mpr ⟨parts, text ▸ decomposes, rfl⟩
      rw [failed] at parsed
      cases parsed
    · exact ⟨parts, more, text, decomposes, single, .inl ⟨fault, read⟩⟩
  | some span =>
    obtain ⟨left, part, right, rfl, free, conflicts⟩ := exists_conflict conflict
    have unmixed := firstConflict_eq_none_iff.mp free
    rw [map_piece_layOut] at unmixed
    rw [List.map_append] at apart
    have decomposes : Decomposes SpellsPlaceholder (written left) left :=
      ⟨rfl, fun next member => forms next (by simp [member]), apart.left_of_append, unmixed⟩
    -- Only a placeholder conflicts.
    have follows := forms part (by simp)
    cases follows with
    | literal => simp [Piece.conflicts, Piece.addressing?] at conflicts
    | percent => simp [Piece.conflicts, Piece.addressing?] at conflicts
    | placeholder spelled =>
      obtain ⟨body, rfl, reads⟩ := spelled.read
      refine ⟨left, body ++ (written right ++ rest), by simp [text], decomposes, ?_,
        .inr ⟨body, _, _, rfl, spelled, conflicts⟩⟩
      exact head?_ne_percent (by simp [reads])

/-- Only a key that is no path is refused. -/
theorem selector_eq_error_iff {address : Address} {fault : PlaceholderFault} :
    address.selector = .error fault ↔
      ∃ key, address = .key key ∧ (∀ segments, ¬SpellsPath key segments) ∧
        fault = .keyPath key := by
  cases address with
  | next => simp [Address.selector]
  | number position => simp [Address.selector]
  | key key =>
    -- A key that is a path is not refused, and any other is.
    cases path : readPath? key with
    | none =>
      have none : ∀ segments, ¬SpellsPath key segments := by
        intro segments spelled
        rw [readPath?_eq_some_iff.mpr spelled] at path
        cases path
      simp [Address.selector, path, none, eq_comm]
    | some segments =>
      have spelled := readPath?_eq_some_iff.mp path
      simp only [Address.selector, path, reduceCtorEq, false_iff, not_exists]
      rintro _ ⟨same, none, _⟩
      cases same
      exact none segments spelled

/-- A text of the form of a placeholder decides how the text that begins with it is read. -/
theorem HasForm.decides {text rest : List Char} {address : Address} (form : HasForm text address)
    (begins : text <+: '%' :: rest) :
    ∃ (body back : List Char) (format : Placeholder), text = '%' :: body ∧ rest = body ++ back ∧
      readPlaceholder rest =
        address.selector.map fun selector => ({ format with selector }, back) := by
  -- The reader looks at no more than the text of the form.
  obtain ⟨body, format, rfl, reads⟩ := form.read
  obtain ⟨back, whole⟩ := begins
  simp only [List.cons_append, List.cons.injEq, true_and] at whole
  exact ⟨body, back, format, rfl, whole.symm, whole ▸ reads back⟩

/-- The key of a text of the form of a placeholder runs from a parenthesis to the next one. -/
theorem HasForm.key {text rest key : List Char} (form : HasForm text (.key key))
    (begins : text <+: '%' :: rest) : ∃ back, rest = '(' :: (key ++ ')' :: back) ∧ ')' ∉ key := by
  obtain ⟨spelling, request, rfl, addressed, _⟩ := form
  obtain ⟨back, whole⟩ := begins
  -- The key stands directly behind the percent sign.
  generalize written : spelling.address = cs at addressed
  cases addressed with
  | key _ closed =>
    simp only [Spelling.text, written, List.cons_append, List.cons.injEq, true_and] at whole
    exact ⟨spelling.format ++ back, by simp [← whole], closed⟩

variable {front rest : List Char} {before : Template}

/-- Where nothing of the form of a placeholder begins, the error is an unexpected percent sign. -/
theorem describes_unexpected (read : readPlaceholder rest = .error .unexpected) :
    (ParseError.unexpected (byteLength front) (String.ofList ('%' :: rest))).Describes
      before front rest := by
  -- A text of the form would have been read up to its key.
  have formless : ∀ text address, text <+: '%' :: rest → ¬HasForm text address := by
    intro text address begins form
    obtain ⟨_, _, _, _, _, decided⟩ := form.decides begins
    rw [read] at decided
    cases resolved : address.selector with
    | ok selector =>
      rw [resolved] at decided
      cases decided
    | error fault =>
      obtain ⟨key, _, _, rfl⟩ := selector_eq_error_iff.mp resolved
      rw [resolved] at decided
      cases decided
  -- The other two errors need a text of the form.
  refine ⟨iff_of_true rfl formless, fun key => ⟨nofun, fun other => ?_⟩, ?_⟩
  · obtain ⟨⟨text, begins, form⟩, _⟩ := other
    exact absurd form (formless text _ begins)
  · intro text address begins form
    exact absurd form (formless text address begins)

/-- Where a text of the form of a placeholder has a key that is no path, the error is that key. -/
theorem describes_keyPath {key : List Char}
    (read : readPlaceholder rest = .error (.keyPath key)) :
    (ParseError.keyPath (byteLength front + 2) (String.ofList key)).Describes
      before front rest := by
  obtain ⟨body, back, split, form, refused⟩ := readPlaceholder_keyPath read
  have begins : '%' :: body <+: '%' :: rest := ⟨back, by rw [split, List.cons_append]⟩
  -- Any other text of the form has the same key, which is refused.
  have resolved : ∀ text address, text <+: '%' :: rest → HasForm text address →
      address = .key key ∧ ∀ segments, ¬SpellsPath key segments := by
    intro text address begins form
    obtain ⟨_, _, _, _, _, decided⟩ := form.decides begins
    rw [read] at decided
    cases resolved : address.selector with
    | ok selector =>
      rw [resolved] at decided
      cases decided
    | error fault =>
      obtain ⟨other, rfl, none, rfl⟩ := selector_eq_error_iff.mp resolved
      rw [resolved] at decided
      cases decided
      exact ⟨rfl, none⟩
  refine ⟨iff_of_false nofun fun formless => formless _ _ begins form, fun other => ⟨?_, ?_⟩, ?_⟩
  · intro same
    obtain rfl : key = other := String.ofList_injective (ParseError.keyPath.inj same).2
    exact ⟨⟨_, begins, form⟩, form.key begins, (resolved _ _ begins form).2⟩
  · intro keyed
    obtain ⟨⟨text, begins, form⟩, _⟩ := keyed
    cases (resolved text _ begins form).1
    rfl
  · intro text address begins form path
    obtain ⟨same, none⟩ := resolved text address begins form
    obtain ⟨segments, spelled⟩ := path key same
    exact absurd spelled (none segments)

/-- Where a placeholder conflicts with those in front, the error is that it mixes addressing. -/
theorem describes_mixed {body back : List Char} {request : Placeholder}
    (split : rest = body ++ back) (spelled : SpellsPlaceholder ('%' :: body) request)
    (some : before.placeholders ≠ [])
    (differ : ∀ placed ∈ before.placeholders,
      (placed.2.selector.IsPath ↔ ¬request.selector.IsPath)) :
    (ParseError.mixed ⟨byteLength front, byteLength front + byteLength ('%' :: body)⟩).Describes
      before front rest := by
  -- A placeholder is a text of the form whose key is a path.
  obtain ⟨address, form, _⟩ := spelled.hasForm
  have begins : '%' :: body <+: '%' :: rest := ⟨back, by rw [split, List.cons_append]⟩
  obtain ⟨_, same, reads⟩ := spelled.read
  cases same
  have read := reads back
  rw [← split] at read
  refine ⟨iff_of_false nofun fun formless => formless _ _ begins form,
    fun key => ⟨nofun, fun keyed => ?_⟩, fun text address begins form _ => ?_⟩
  · -- The key would have been refused, but the placeholder is read.
    obtain ⟨⟨text, begins, form⟩, _, none⟩ := keyed
    obtain ⟨_, _, _, _, _, decided⟩ := form.decides begins
    rw [read, selector_eq_error_iff.mpr ⟨key, rfl, none, rfl⟩] at decided
    cases decided
  · -- Both texts end where the reader stops, so they are the same.
    obtain ⟨other, left, format, rfl, whole, decided⟩ := form.decides begins
    have same : other = body := by
      rw [read] at decided
      cases resolved : address.selector with
      | error fault =>
        rw [resolved] at decided
        cases decided
      | ok selector =>
        rw [resolved] at decided
        cases decided
        exact List.append_cancel_right (whole.symm.trans split)
    subst same
    exact ⟨rfl, request, spelled, some, differ⟩

/-- A text that is no template is refused at its first percent sign out of place.

The text in front of it is a template, what begins there decides which error it is, and any error
but an unexpected percent sign stays whatever is written behind the text. -/
theorem parse_error_first_fault {source : String} {error : ParseError}
    (failed : Template.parse source = .error error) :
    (∃ front rest before, source.toList = front ++ '%' :: rest ∧ rest.head? ≠ some '%' ∧
      Template.parse (String.ofList front) = .ok before ∧ error.Describes before front rest) ∧
    ((∀ position remainder, error ≠ .unexpected position remainder) →
      ∀ more, Template.parse (source ++ more) = .error error) := by
  obtain ⟨parts, rest, text, decomposes, single, cause⟩ := exists_first_fault failed
  have before := parse_eq_ok_iff.mpr ⟨parts, by rwa [String.toList_ofList], rfl⟩
  -- From here on the reader is known behind the front, also with more text.
  have behind := parse_behind decomposes
  have whole : ∀ more, source ++ more =
      String.ofList (written parts ++ '%' :: (rest ++ more.toList)) := by
    intro more
    rw [← String.toList_inj]
    simp [text]
  have failedToo := behind rest
  rw [← text, String.ofList_toList, failed] at failedToo
  rcases cause with ⟨fault, read⟩ | ⟨body, back, request, rfl, spelled, conflicts⟩
  · rw [readNodes_fault read single] at failedToo
    cases failedToo
    cases fault with
    | unexpected =>
      exact ⟨⟨_, rest, _, text, single, before, describes_unexpected read⟩,
        fun other => absurd rfl (other _ _)⟩
    | keyPath key =>
      refine ⟨⟨_, rest, _, text, single, before, describes_keyPath read⟩, fun _ more => ?_⟩
      -- The key is refused before anything behind the text is looked at.
      have readToo := readPlaceholder_keyPath_append read more.toList
      rw [whole, behind, readNodes_fault readToo (head?_ne_percent (by simp [readToo]))]
      rfl
  · -- The placeholder is taken whole, and it conflicts whatever stands behind it.
    have conflict : ∀ more, readNodes (byteLength (written parts))
        (addressingBehind none (parts.map Part.piece)) ('%' :: (body ++ more)) =
          .error (.mixed ⟨byteLength (written parts),
            byteLength (written parts) + byteLength ('%' :: body)⟩) := by
      intro more
      have taken := @readNodes_part _ (.placeholder spelled) more nofun
        (byteLength (written parts)) (addressingBehind none (parts.map Part.piece))
      rwa [if_pos conflicts] at taken
    rw [conflict] at failedToo
    cases failedToo
    obtain ⟨some, differ⟩ := conflicts_placeholders (String.ofList (written parts))
      decomposes.unmixed conflicts
    refine ⟨⟨_, _, _, text, single, before, describes_mixed rfl spelled some differ⟩,
      fun _ more => ?_⟩
    rw [whole, behind, List.append_assoc, conflict]
    rfl

/-- A key that is no path is refused behind text and a doubled percent sign. -/
theorem parse_error_first_fault_key :
    Template.parse "é%%%(a b)d" = .error (.keyPath 6 "a b") ∧
      (∃ front rest before, "é%%%(a b)d".toList = front ++ '%' :: rest ∧ rest.head? ≠ some '%' ∧
        Template.parse (String.ofList front) = .ok before ∧
        (ParseError.keyPath 6 "a b").Describes before front rest) ∧
      ∀ more, Template.parse ("é%%%(a b)d" ++ more) = .error (.keyPath 6 "a b") := by
  have decomposes : Decomposes SpellsPlaceholder ['é', '%', '%']
      [⟨['é'], .literal "é"⟩, ⟨['%', '%'], .percent⟩] := by
    refine ⟨rfl, ?_, ?_, ?_⟩
    · intro part member
      simp only [List.mem_cons, List.not_mem_nil, or_false] at member
      rcases member with rfl | rfl
      · exact .literal (by decide) (by decide)
      · exact .percent
    · simp [Piece.Apart, Piece.isLiteral]
    · simp [Unmixed]
  -- What stands in front is a template, and the key is refused.
  have refused : readPlaceholder "(a b)d".toList = .error (.keyPath "a b".toList) := by
    decide +kernel
  have failed := parse_behind decomposes "(a b)d".toList
  rw [readNodes_fault refused (by decide)] at failed
  obtain ⟨fault, stays⟩ := parse_error_first_fault failed
  exact ⟨failed, fault, stays (by rintro _ _ ⟨⟩)⟩

end TextTemplate
