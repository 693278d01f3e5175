import TextTemplate.Proofs.Template.ErrorSpan
import TextTemplate.Proofs.Text.Leading
import TextTemplate.Template.Highlight

/-! An error is always shown below the line of its own template. -/

namespace TextTemplate

/-- The characters on the line of a place, in front of it and behind: from the last end of a line
up to the next. -/
structure LineAround (front back before after : List Char) : Prop where
  front : ∃ earlier, front = earlier ++ before ∧ ∀ c ∈ earlier.getLast?, c = '\n' ∨ c = '\r'
  back : ∃ later, back = after ++ later ∧ ∀ c ∈ later.head?, c = '\n' ∨ c = '\r'
  inside : ∀ c ∈ before ++ after, c ≠ '\n' ∧ c ≠ '\r'

/-- The characters that two texts with the same beginning share, which are all of one of them. -/
structure IsOverlap (left right shared : List Char) : Prop where
  begins_left : shared <+: left
  begins_right : shared <+: right
  whole : shared = left ∨ shared = right

/-- A line below which a part of it is marked, as it is shown. -/
def drawing (before after marked : List Char) : List Char :=
  [' ', ' '] ++ before ++ after ++ ['\n'] ++
    [' ', ' '] ++ List.replicate (displayWidth before) ' ' ++
      List.replicate (max 1 (displayWidth marked)) '^' ++ ['\n']

/-- What is shown of a part of a text: nothing where its line is too wide, or else the line with the
part of it that is on the line marked. -/
structure IsShown (before after marked : List Char) (shown : String) : Prop where
  empty_iff : shown = "" ↔ 60 < displayWidth (before ++ after)
  drawn : displayWidth (before ++ after) ≤ 60 → shown.toList = drawing before after marked

section Line

variable {earlier before after later : List Char}

/-- A character that is not the end of a line is neither a line feed nor a carriage return. -/
theorem inLine_iff {c : Char} : (!isLineEnd c) = true ↔ c ≠ '\n' ∧ c ≠ '\r' := by
  -- These are the two ends of lines.
  simp [isLineEnd]

/-- A line feed and a carriage return are ends of lines. -/
theorem not_inLine_iff {c : Char} : (!isLineEnd c) = false ↔ c = '\n' ∨ c = '\r' := by
  -- These are the two ends of lines.
  simp [isLineEnd, Classical.or_iff_not_imp_left]

/-- Every place of a text is on a line. -/
theorem exists_lineAround (front back : List Char) :
    ∃ before after, LineAround front back before after := by
  -- The line is looked for from the place on, in both directions.
  refine ⟨(front.reverse.takeWhile (!isLineEnd ·)).reverse, back.takeWhile (!isLineEnd ·),
    ⟨(front.reverse.dropWhile (!isLineEnd ·)).reverse, ?_, fun c last => ?_⟩,
    ⟨back.dropWhile (!isLineEnd ·), List.takeWhile_append_dropWhile.symm, fun c first => ?_⟩,
    fun c member => ?_⟩
  · rw [← List.reverse_append, List.takeWhile_append_dropWhile, List.reverse_reverse]
  · rw [List.getLast?_reverse] at last
    exact not_inLine_iff.mp (head?_dropWhile_stops _ _ c last)
  · exact not_inLine_iff.mp (head?_dropWhile_stops _ _ c first)
  · rw [List.mem_append, List.mem_reverse] at member
    exact inLine_iff.mp (member.elim List.mem_takeWhile_imp List.mem_takeWhile_imp)

/-- The line of a place begins behind the last end of a line in front of the place. -/
theorem lineStart?_append (inside : ∀ c ∈ before, c ≠ '\n' ∧ c ≠ '\r')
    (ends : ∀ c ∈ earlier.getLast?, c = '\n' ∨ c = '\r') (back : List Char) :
    lineStart? (earlier ++ before ++ back) (byteLength (earlier ++ before)) =
      some (byteLength earlier) := by
  have split : splitAtByte? (byteLength (earlier ++ before)) (earlier ++ before ++ back) =
      some (earlier ++ before, back) := splitAtByte?_eq_some_iff.mpr ⟨rfl, rfl⟩
  -- Seen from the place, the line comes first and the rest begins with the end of a line.
  have found := (takeWhile_dropWhile_append (p := (!isLineEnd ·))
    (fun c member => inLine_iff.mpr (inside c (List.mem_reverse.mp member)))
    (fun c first => not_inLine_iff.mpr (ends c (List.head?_reverse ▸ first)))).2
  simp only [lineStart?, split, Option.bind_eq_bind, Option.bind_some, List.reverse_append, found,
    byteLength_reverse, Option.pure_def]

/-- The line of a place ends in front of the first end of a line from the place on. -/
theorem lineStop?_append (inside : ∀ c ∈ after, c ≠ '\n' ∧ c ≠ '\r')
    (ends : ∀ c ∈ later.head?, c = '\n' ∨ c = '\r') (front : List Char) :
    lineStop? (front ++ (after ++ later)) (byteLength front) =
      some (byteLength front + byteLength after) := by
  have split : splitAtByte? (byteLength front) (front ++ (after ++ later)) =
      some (front, after ++ later) := splitAtByte?_eq_some_iff.mpr ⟨rfl, rfl⟩
  -- From the place on, the line comes first.
  have found := (takeWhile_dropWhile_append (p := (!isLineEnd ·))
    (fun c member => inLine_iff.mpr (inside c member))
    (fun c first => not_inLine_iff.mpr (ends c first))).1
  simp only [lineStop?, split, Option.bind_eq_bind, Option.bind_some, found, Option.pure_def]

/-- Spaces reach up to a part of a line, and marks are below it. -/
theorem underline?_append (before marked rest : List Char) :
    underline? (before ++ (marked ++ rest))
        ⟨byteLength before, byteLength before + byteLength marked⟩ =
      some (List.replicate (displayWidth before) ' ' ++
        List.replicate (max 1 (displayWidth marked)) '^') := by
  -- What is in front of the marks is cut off from the start of the line.
  have front : slice? 0 (byteLength before) (before ++ (marked ++ rest)) = some before := by
    have cut := slice?_byteLength [] before (marked ++ rest)
    rwa [byteLength, Nat.zero_add, List.nil_append] at cut
  rw [underline?, front, slice?_byteLength]
  rfl

end Line

/-- Two texts that begin a third overlap. -/
theorem exists_isOverlap {left right whole : List Char} (begins_left : left <+: whole)
    (begins_right : right <+: whole) : ∃ shared, IsOverlap left right shared := by
  -- The shorter of the two begins the longer one.
  rcases List.prefix_or_prefix_of_prefix begins_left begins_right with shorter | shorter
  · exact ⟨left, List.prefix_rfl, shorter, .inl rfl⟩
  · exact ⟨right, shorter, List.prefix_rfl, .inr rfl⟩

/-- What two texts share takes as many bytes as the shorter of them. -/
theorem IsOverlap.byteLength_eq {left right shared : List Char}
    (overlap : IsOverlap left right shared) :
    min (byteLength left) (byteLength right) = byteLength shared := by
  obtain ⟨⟨moreLeft, rfl⟩, ⟨moreRight, rfl⟩, whole⟩ := overlap
  -- One of the two is no longer than what they share.
  rw [byteLength_append, byteLength_append]
  rcases whole with same | same
  · rw [List.self_eq_append_right.mp same, byteLength]
    omega
  · rw [List.self_eq_append_right.mp same, byteLength]
    omega

/-- A part of a text is shown with its line. -/
theorem highlight?_cuts {span : Span} {source : String}
    {front text back before after marked : List Char} (cuts : span.Cuts source front text back)
    (line : LineAround front (text ++ back) before after) (overlap : IsOverlap text after marked) :
    highlight? source span =
      some (if 60 < displayWidth (before ++ after) then ""
        else String.ofList (drawing before after marked)) := by
  -- Every offset is that of one of the five parts that the text falls into.
  obtain ⟨whole, rfl⟩ := cuts
  obtain ⟨⟨earlier, rfl, starts⟩, ⟨later, split, ends⟩, inside⟩ := line
  have insideBefore : ∀ c ∈ before, c ≠ '\n' ∧ c ≠ '\r' :=
    fun c member => inside c (List.mem_append_left _ member)
  have insideAfter : ∀ c ∈ after, c ≠ '\n' ∧ c ≠ '\r' :=
    fun c member => inside c (List.mem_append_right _ member)
  rw [split] at whole
  have start := lineStart?_append insideBefore starts (after ++ later)
  have stop := lineStop?_append insideAfter ends (earlier ++ before)
  have cut : slice? (byteLength earlier) (byteLength (earlier ++ before) + byteLength after)
      (earlier ++ before ++ (after ++ later)) = some (before ++ after) := by
    have cut := slice?_byteLength earlier (before ++ after) later
    rw [byteLength_append, ← Nat.add_assoc, ← byteLength_append] at cut
    simpa using cut
  -- The part ends where it does or where the line does, whichever comes first.
  have last : min (byteLength (earlier ++ before) + byteLength text)
      (byteLength (earlier ++ before) + byteLength after) =
        byteLength (earlier ++ before) + byteLength marked := by
    rw [Nat.add_min_add_left, overlap.byteLength_eq]
  have left : byteLength (earlier ++ before) - byteLength earlier = byteLength before := by
    rw [byteLength_append, Nat.add_sub_cancel_left]
  have right : byteLength (earlier ++ before) + byteLength marked - byteLength earlier =
      byteLength before + byteLength marked := by
    rw [byteLength_append, Nat.add_assoc, Nat.add_sub_cancel_left]
  have ordered : byteLength earlier ≤ byteLength (earlier ++ before) := by
    rw [byteLength_append]
    exact Nat.le_add_right _ _
  have guarded : byteLength earlier ≤ byteLength (earlier ++ before) ∧
      byteLength earlier ≤ byteLength (earlier ++ before) + byteLength marked :=
    ⟨ordered, ordered.trans (Nat.le_add_right _ _)⟩
  obtain ⟨rest, rfl⟩ := overlap.begins_right
  have marks := underline?_append before marked rest
  simp only [highlight?, whole, start, stop, cut, Option.bind_eq_bind, Option.bind_some, last, left,
    right, maxLineWidth, marks, guard, if_pos guarded]
  split
  · rfl
  · simp [drawing]

/-- What is shown of a part of a text is its drawing or nothing, by the width of its line. -/
theorem isShown_drawing (before after marked : List Char) :
    IsShown before after marked (if 60 < displayWidth (before ++ after) then ""
      else String.ofList (drawing before after marked)) := by
  by_cases wide : 60 < displayWidth (before ++ after)
  · rw [if_pos wide]
    exact ⟨iff_of_true rfl wide, fun narrow => absurd wide (Nat.not_lt.mpr narrow)⟩
  · rw [if_neg wide]
    -- A drawing is never empty, for its lines are set in from the margin.
    have some : String.ofList (drawing before after marked) ≠ "" := by
      intro empty
      have none := congrArg String.toList empty
      rw [String.toList_ofList] at none
      cases none
    exact ⟨iff_of_false some wide, fun _ => String.toList_ofList⟩

/-- Every error points at its part of the template and is shown below the line of that.

The part lies between characters of the template. It is the percent sign or the key at fault, or
else a placeholder. What is shown is the line where the part begins and the marks below, or nothing
where the line is wider than 60 columns. -/
theorem format_error_shown {source : String} {args : List Value} {before after : CallHistory}
    {error : FormatError} (failed : (format source args).outcome before = (.error error, after)) :
    error.span.Within source ∧
      ∃ front text back, error.span.Cuts source front text back ∧ error.PointsAt front text ∧
        ∃ left right marked shown, LineAround front (text ++ back) left right ∧
          IsOverlap text right marked ∧ highlight? source error.span = some shown ∧
          IsShown left right marked shown := by
  obtain ⟨front, text, back, cuts, points⟩ := format_error_cuts failed
  obtain ⟨left, right, line⟩ := exists_lineAround front (text ++ back)
  obtain ⟨later, split, _⟩ := line.back
  -- The part and the line go on from the same place.
  obtain ⟨marked, overlap⟩ := exists_isOverlap (List.prefix_append text back) ⟨later, split.symm⟩
  exact ⟨cuts.within, front, text, back, cuts, points, left, right, marked, _, line, overlap,
    highlight?_cuts cuts line overlap, isShown_drawing left right marked⟩

/-- A placeholder whose pad is a line feed is marked up to the end of its first line. -/
theorem format_error_shown_first_line :
    let error : FormatError := .render ⟨⟨3, 7⟩, .notNumeric .decimal .null⟩
    (format "é\n%'\nd" [.null]).outcome .empty = (.error error, .empty) ∧
      error.span.Within "é\n%'\nd" ∧
      (∃ front text back, error.span.Cuts "é\n%'\nd" front text back ∧
        error.PointsAt front text) ∧
      highlight? "é\n%'\nd" error.span = some "  %'\n  ^^\n" := by
  intro error
  -- The placeholder goes on behind the end of the line, and is marked up to it.
  have failed : (format "é\n%'\nd" [.null]).outcome .empty = (.error error, .empty) := by
    decide +kernel
  obtain ⟨within, front, text, back, cuts, points, _⟩ := format_error_shown failed
  exact ⟨failed, within, ⟨front, text, back, cuts, points⟩, by decide⟩

end TextTemplate
