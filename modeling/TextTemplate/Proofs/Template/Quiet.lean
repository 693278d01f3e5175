import TextTemplate.Proofs.Template.Printer
import TextTemplate.Proofs.Value.Deferred

/-! The conversions that leave deferred values alone make calls only for those in maps that they
show. -/

namespace TextTemplate

variable {request : Placeholder} {value : Value}

/-- The kind of a value is shown without a call. -/
theorem render_kind (asked : request.conversion = .kind) (value : Value) :
    request.render value = pure (.ok (request.compose (request.cut value.kind.name.toList))) := by
  -- The kind is known even of a value that is not.
  simp [Placeholder.render, Placeholder.convert, asked, Conversion.callsDeferred,
    Conversion.isNumeric, Conversion.isInteger, Except.map]

/-- A primitive text is the text of the value as it stands. -/
theorem render_primitive (asked : request.conversion = .primitive) (value : Value) :
    request.render value = do return .ok (request.compose (request.cut (← value.display))) := by
  -- Neither a number nor a call is asked for, so that the value is shown as it is.
  simp [Placeholder.render, Placeholder.convert, asked, Conversion.callsDeferred,
    Conversion.isNumeric, Conversion.isInteger, Except.map]

/-- A placeholder for a kind or a primitive text calls nothing exactly where it does not show a map
in which a deferred value stands. -/
theorem render_quiet_iff (asked : request.conversion = .kind ∨ request.conversion = .primitive)
    (args : List Value) (next : Nat) (before : CallHistory) :
    (∀ id, (((Piece.placeholder request).render args next).outcome before).2.count id =
        before.count id) ↔
      ∀ value, request.conversion = .primitive → request.selector.pick args next = .ok value →
        value.dumpsDeferred = false := by
  cases picked : request.selector.pick args next with
  | error fault =>
    -- Nothing is shown where the argument or a step is missing.
    simp [Piece.render, picked]
  | ok value =>
    have shown : (Piece.placeholder request).render args next = request.render value := by
      simp only [Piece.render, picked]
    rw [shown]
    rcases asked with kind | primitive
    -- No call is needed to tell a kind.
    · simp [render_kind kind, kind]
    -- Cutting and padding come after the calls and make no others.
    · have adds := (value.display_adds).map fun text =>
        (.ok (request.compose (request.cut text)) : Except RenderFault (List Char))
      have counted := adds.count_eq_iff
        (fun quiet => (value.display_settles quiet).bind fun _ => Calls.settles_pure _) before
      rw [render_primitive primitive, counted]
      simp [primitive]

/-- A deferred value that is an item of a list is shown by its kind and not called. -/
theorem render_quiet_iff_list :
    ∃ request : Placeholder, request.conversion = .primitive ∧
      ∀ id, (((Piece.placeholder request).render [.list [.deferred 0 [] (.int 1), .null]] 1).outcome
        .empty).2.count id = CallHistory.empty.count id := by
  refine ⟨Placeholder.plain .next .primitive, rfl, ?_⟩
  refine (render_quiet_iff (.inr rfl) _ _ _).mpr ?_
  intro value _ picked
  cases picked
  rfl

/-- A deferred value in a map is called where the primitive text of the map is shown, even if none
of it is kept: the dump behind it shows the second result. -/
theorem render_primitive_calls :
    ∃ request : Placeholder, request.conversion = .primitive ∧
      (((Piece.placeholder request).render [.map [("a", .deferred 0 [.int 1] (.int 2))]] 1).outcome
        .empty).2.count 0 ≠ CallHistory.empty.count 0 ∧
      ((format "%1$.0v%1$j" [.map [("a", .deferred 0 [.int 1] (.int 2))]]).outcome .empty).1 =
        .ok "\x7b\x22a\x22:2\x7d" := by
  refine ⟨Placeholder.plain .next .primitive, rfl, by decide, ?_⟩
  let nothing := { Placeholder.plain (.number 1) .primitive with precision := some 0 }
  let dump := Placeholder.plain (.number 1) .json
  let pieces : List Piece := [.placeholder nothing, .placeholder dump]
  have written : printed pieces = "%1$.0v%1$j" := by decide
  have valid : WellFormed pieces := by
    have numbered : Selector.WellFormed (.number 1) := ⟨by decide, by decide⟩
    have nothingValid : nothing.WellFormed := ⟨numbered, nofun, nofun, nofun, by decide⟩
    have dumpValid : dump.WellFormed := Placeholder.plain_wellFormed _ _ numbered
    refine ⟨?_, ?_, ?_⟩
    · simp [pieces, Piece.WellFormed, nothingValid, dumpValid]
    · simp [pieces, Piece.Apart, Piece.isLiteral]
    · simp [pieces, Unmixed, Selector.IsPath, nothing, dump, Placeholder.plain]
  have parsed := valid.parse_printed
  rw [written] at parsed
  rw [format_outcome parsed]
  rfl

end TextTemplate
