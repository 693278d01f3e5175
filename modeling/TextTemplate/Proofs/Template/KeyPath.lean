import TextTemplate.Proofs.Template.Printer
import TextTemplate.Proofs.Value.Part

/-! A key shows the part of an argument that its path reaches, as a placeholder without a key shows
the part itself. -/

namespace TextTemplate

/-- A placeholder with a key and a conversion, and nothing else. -/
def keyedText (key : List Char) (c : Char) : List Char :=
  '%' :: ('(' :: (key ++ [')']) ++ [c])

variable {cs address : List Char} {request : Placeholder} {selector : Selector} {c : Char}
  {conversion : Conversion} {value part : Value} {fault : RenderFault}

/-- A selector and a conversion alone spell the placeholder without optional fields. -/
theorem spells_plain (selects : SpellsSelector address selector)
    (asks : SpellsConversion c conversion) :
    SpellsPlaceholder ('%' :: (address ++ [c])) (Placeholder.plain selector conversion) := by
  -- All fields between the two are empty, so that no zero stands at the front of a width.
  refine ⟨⟨address, [], [], [], [], [], c⟩, rfl, ⟨selects, ?_⟩, ?_⟩
  · exact ⟨rfl, .missing, rfl, .missing, .missing, asks⟩
  · intro _ _
    simp

/-- A placeholder in line takes what its path finds in the only argument. -/
theorem pick_only (takes : selector.takesNext) (value : Value) :
    selector.pick [value] 1 = value.follow selector.steps := by
  -- A placeholder in line takes the first argument, and there is one.
  rw [pick_eq, numbered_of_takesNext takes]
  rfl

/-- A placeholder alone fails where its path does, and then no value is called. -/
theorem format_missing (spelled : SpellsPlaceholder cs request) (takes : request.selector.takesNext)
    (failed : value.follow request.selector.steps = .error fault) (before : CallHistory) :
    (format (String.ofList cs) [value]).outcome before =
      (.error (.render ⟨⟨0, byteLength cs⟩, fault⟩), before) := by
  -- The walk fails before anything is rendered.
  have shown := format_single spelled [value] before
  simp only [Piece.render, pick_only takes, failed] at shown
  exact shown

/-- A placeholder alone shows what its path leads to. -/
theorem format_reached (spelled : SpellsPlaceholder cs request) (takes : request.selector.takesNext)
    (reached : value.follow request.selector.steps = .ok part) (before : CallHistory) :
    (format (String.ofList cs) [value]).outcome before =
      match (request.render part).outcome before with
      | (.error fault, after) => (.error (.render ⟨⟨0, byteLength cs⟩, fault⟩), after)
      | (.ok text, after) => (.ok (String.ofList text), after) := by
  -- The part is rendered where the walk ends.
  have shown := format_single spelled [value] before
  simp only [Piece.render, pick_only takes, reached] at shown
  exact shown

/-- Without optional fields a value is rendered the same however it was selected. -/
theorem render_plain (selector : Selector) (conversion : Conversion) :
    (Placeholder.plain selector conversion).render =
      (Placeholder.plain .next conversion).render := rfl

/-- A value is shown, or it is no number where the conversion needs one. -/
theorem render_cases (request : Placeholder) (value : Value) (before : CallHistory) :
    ∃ after, (∃ text, (request.render value).outcome before = (.ok text, after)) ∨
      ∃ kind, (request.render value).outcome before =
        (.error (.notNumeric request.conversion kind), after) := by
  -- Rendering fails only where no number is found.
  cases rendered : (request.render value).outcome before with
  | mk result after =>
    refine ⟨after, ?_⟩
    cases result with
    | ok text => exact .inl ⟨text, rfl⟩
    | error fault =>
      obtain ⟨found, _, _, _, rfl⟩ := render_outcome_eq_error_iff.mp rendered
      exact .inr ⟨found.kind, rfl⟩

/-- A key shows the part that its path reaches, as a placeholder without a key shows the part.

Where the path reaches no part, the key fails with the first step that has none. Following the path
calls no value, and no step leads into a value without parts. -/
theorem format_key_path {steps : List Segment} (valid : (Selector.path steps).WellFormed)
    (asks : SpellsConversion c conversion) (value : Value) :
    SpellsPath (pathText steps) steps ∧
    (∀ key, SpellsPath key steps →
      let keyed := keyedText key c
      let plain := ['%', c]
      (∃ template, Template.parse (String.ofList keyed) = .ok template) ∧
      (∀ part, value.Reaches steps part → ∀ before, ∃ after,
        (∃ text, (format (String.ofList plain) [part]).outcome before = (.ok text, after) ∧
          (format (String.ofList keyed) [value]).outcome before = (.ok text, after)) ∨
        ∃ kind, (format (String.ofList plain) [part]).outcome before =
            (.error (.render ⟨⟨0, byteLength plain⟩, .notNumeric conversion kind⟩), after) ∧
          (format (String.ofList keyed) [value]).outcome before =
            (.error (.render ⟨⟨0, byteLength keyed⟩, .notNumeric conversion kind⟩), after)) ∧
      ((∀ part, ¬value.Reaches steps part) →
        ∃ front segment back reached, steps = front ++ segment :: back ∧
          value.Reaches front reached ∧ (∀ part, ¬reached.IsPart segment part) ∧
          ∀ before, (format (String.ofList keyed) [value]).outcome before =
            (.error (.render ⟨⟨0, byteLength keyed⟩, .noProperty segment⟩), before))) ∧
    ∀ leaf : Value, leaf.kind.hasParts = false → ∀ segment, leaf.child? segment = none := by
  refine ⟨spellsPath_pathText valid, ?_, ?_⟩
  · intro key path keyed plain
    have keyedSpelled : SpellsPlaceholder keyed (.plain (.path steps) conversion) :=
      spells_plain (.path path) asks
    have plainSpelled : SpellsPlaceholder plain (.plain .next conversion) :=
      spells_plain .next asks
    refine ⟨⟨_, parse_placeholder keyedSpelled⟩, ?_, ?_⟩
    · intro part reaches before
      -- The key finds the part by its path, and the plain placeholder is given it.
      have followed := follow_eq_ok_iff.mpr (Value.leads_iff.mpr reaches)
      have keyedShown := format_reached keyedSpelled rfl followed before
      have stays : part.follow (Placeholder.plain .next conversion).selector.steps = .ok part := rfl
      have plainShown := format_reached plainSpelled rfl stays before
      -- Both render the part, and differ only in where they would fail.
      rw [render_plain] at keyedShown
      obtain ⟨after, ⟨text, shown⟩ | ⟨kind, failed⟩⟩ :=
        render_cases (.plain .next conversion) part before
      · rw [shown] at keyedShown plainShown
        exact ⟨after, .inl ⟨_, plainShown, keyedShown⟩⟩
      · rw [failed] at keyedShown plainShown
        exact ⟨after, .inr ⟨kind, plainShown, keyedShown⟩⟩
    · intro nowhere
      -- A walk that fails has stopped at the first step without a part.
      cases followed : value.follow steps with
      | ok part => exact absurd (Value.leads_iff.mp (follow_eq_ok_iff.mp followed)) (nowhere part)
      | error fault =>
        obtain ⟨front, segment, back, reached, split, leads, none, rfl⟩ :=
          follow_eq_error_iff.mp followed
        refine ⟨front, segment, back, reached, split, Value.leads_iff.mp leads,
          Value.child?_eq_none_iff.mp none, ?_⟩
        exact format_missing keyedSpelled rfl followed
  · -- A value with a part would be of a kind that has some.
    intro leaf without segment
    apply Value.child?_eq_none_iff.mpr
    intro part isPart
    rw [isPart.hasParts] at without
    contradiction

/-- A key leads through a map and a list to a character of a text, and nowhere into null. -/
theorem format_key_path_character :
    (format "%(a[1][1])s" [.map [("a", .list [.null, .text "h❤y"])]]).outcome .empty =
        (.ok "❤", .empty) ∧
      (format "%(a[1][1])s" [.null]).outcome .empty =
        (.error (.render ⟨⟨0, 11⟩, .noProperty (.field "a")⟩), .empty) := by
  let root : Value := .map [("a", .list [.null, .text "h❤y"])]
  let steps : List Segment := [.field "a", .element 1, .element 1]
  have valid : (Selector.path steps).WellFormed := by
    have named : IsName ['a'] := ⟨⟨'a', rfl, by simp⟩, by simp⟩
    refine ⟨⟨_, _, rfl⟩, ?_⟩
    simp [steps, Segment.WellFormed, named]
  have asks : SpellsConversion 's' .text := .inl rfl
  constructor
  · -- Each step leads to one part, and the last to a text of one character.
    have entry : root.IsPart (.field "a") (.list [.null, .text "h❤y"]) :=
      @Value.IsPart.entry [] [] "a" _ (by simp)
    have item : (Value.list [.null, .text "h❤y"]).IsPart (.element 1) (.text "h❤y") :=
      .item (by decide)
    have character : (Value.text "h❤y").IsPart (.element 1) (.text "❤") := .character (by decide)
    have reaches : root.Reaches steps (.text "❤") :=
      .step entry (.step item (.step character .here))
    have plain : (format "%s" [.text "❤"]).outcome .empty = (.ok "❤", .empty) :=
      format_reached (spells_plain .next asks) rfl rfl .empty
    obtain ⟨path, keys, _⟩ := format_key_path valid asks root
    obtain ⟨after, ⟨text, shown, keyed⟩ | ⟨kind, failed, _⟩⟩ := (keys _ path).2.1 _ reaches .empty
    · -- The part is shown, so that the key shows the same.
      cases shown.symm.trans plain
      exact keyed
    · cases failed.symm.trans plain
  · have nowhere (part : Value) :
        ¬Value.null.Reaches [.field "a", .element 1, .element 1] part := by
      intro reaches
      cases reaches with
      | step isPart _ => cases isPart
    obtain ⟨path, keys, _⟩ := format_key_path valid asks .null
    obtain ⟨front, segment, back, reached, split, reaches, _, failed⟩ := (keys _ path).2.2 nowhere
    -- No step is taken before the one that fails.
    cases reaches with
    | here =>
      obtain ⟨rfl, rfl⟩ := List.cons.inj split
      exact failed .empty
    | step isPart _ => cases isPart

end TextTemplate
