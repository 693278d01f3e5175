import TextTemplate.Proofs.Template.Rendering
import TextTemplate.Proofs.Value.Alike

/-! A template renders the same where integers are replaced by floating point numbers. -/

namespace TextTemplate

/-- Two picks of values that are alike, or of none for the same reason. -/
inductive PicksAlike : Except RenderFault Value → Except RenderFault Value → Prop where
  | ok {picked like : Value} (alike : picked.Alike like) : PicksAlike (.ok picked) (.ok like)
  | error (fault : RenderFault) : PicksAlike (.error fault) (.error fault)

variable {value other : Value} {args others : List Value}

/-- A numeric conversion shows numbers that are alike the same. -/
theorem convertNumber_eq {number like : Number} (alike : number.Alike like)
    (request : Placeholder) : request.convertNumber number = request.convertNumber like := by
  -- All it reads of a number is its sign, its integer part, its text and its conversion.
  simp only [Placeholder.convertNumber, integerText, unsignedText, characterText,
    alike.nonnegative_eq, alike.toBinary64_eq, alike.truncate?_eq, alike.text_eq]

/-- Values that are alike are numbers that are alike to every conversion, or none. -/
theorem Value.Alike.requested (alike : value.Alike other) (request : Placeholder) :
    Option.Rel Number.Alike (request.number? value) (request.number? other) := by
  -- Conversions to integers ask for the integer part, and others for the number.
  unfold Placeholder.number?
  split
  · exact alike.integer?
  · exact alike.number?

/-- Every conversion shows values that are alike the same, or fails on both the same. -/
theorem Value.Alike.convert_eq (alike : value.Alike other) (request : Placeholder) :
    request.convert value = request.convert other := by
  unfold Placeholder.convert
  split
  · -- A number is shown, and its absence is told by the kind of the value.
    have requested := alike.requested request
    generalize request.number? value = found at requested ⊢
    generalize request.number? other = foundToo at requested ⊢
    cases requested with
    | none => rw [alike.kind_eq]
    | some numbers => simp only [convertNumber_eq numbers]
  · split
    -- What is left shows a dump, a truth, a kind or a text.
    · rw [alike.dump_eq]
    · rw [alike.isTrue_eq]
    · rw [alike.kind_eq]
    · rw [alike.display_eq]

/-- Values that are alike fill the field of a placeholder the same. -/
theorem Value.Alike.render_eq (alike : value.Alike other) (request : Placeholder) :
    request.render value = request.render other := by
  obtain ⟨known, knownToo⟩ := alike.resolve_eq
  -- Neither value is called, so both are converted as they are.
  simp only [Placeholder.render, known, knownToo, ite_self, pure_bind, alike.convert_eq]

/-- A path leads from values that are alike to values that are alike, or breaks off in both. -/
theorem Value.Alike.follow (alike : value.Alike other) (segments : List Segment) :
    PicksAlike (value.follow segments) (other.follow segments) := by
  induction segments generalizing value other with
  | nil => exact .ok alike
  | cons segment segments ih =>
    -- The first step leads on from both values or from neither.
    have child := alike.child? segment
    unfold Value.follow
    generalize value.child? segment = found at child ⊢
    generalize other.child? segment = foundToo at child ⊢
    cases child with
    | none => exact .error _
    | some children => exact ih children

/-- Arguments that are alike are alike under each number. -/
theorem Value.AlikeItems.argument (each : Value.AlikeItems args others) (number : Nat) :
    PicksAlike (argument args number) (argument others number) := by
  -- The count of arguments, which a missing one is told with, is the same.
  cases number with
  | zero =>
    rw [TextTemplate.argument, TextTemplate.argument, each.length_eq]
    exact .error _
  | succ index =>
    have item := each.getElem? index
    simp only [TextTemplate.argument, each.length_eq]
    generalize args[index]? = found at item ⊢
    generalize others[index]? = foundToo at item ⊢
    cases item with
    | none => exact .error _
    | some items => exact .ok items

/-- A selector picks values that are alike from arguments that are alike. -/
theorem Value.AlikeItems.pick (each : Value.AlikeItems args others) (selector : Selector)
    (next : Nat) : PicksAlike (selector.pick args next) (selector.pick others next) := by
  -- The argument is picked first, and the path leads on from it.
  rw [pick_eq, pick_eq]
  have argument := each.argument (selector.numbered next)
  generalize TextTemplate.argument args (selector.numbered next) = picked at argument ⊢
  generalize TextTemplate.argument others (selector.numbered next) = pickedToo at argument ⊢
  cases argument with
  | ok alike => exact alike.follow selector.steps
  | error fault => exact .error fault

/-- A piece renders the same with arguments that are alike. -/
theorem Value.AlikeItems.render_eq (each : Value.AlikeItems args others) (piece : Piece)
    (next : Nat) : piece.render args next = piece.render others next := by
  -- Only a placeholder looks at arguments.
  cases piece with
  | literal | percent => rfl
  | placeholder request =>
    have picked := each.pick request.selector next
    simp only [Piece.render]
    generalize request.selector.pick args next = pick at picked ⊢
    generalize request.selector.pick others next = pickToo at picked ⊢
    cases picked with
    | ok alike => exact alike.render_eq request
    | error fault => rfl

/-- Nodes render the same with arguments that are alike. -/
theorem Value.AlikeItems.renderNodes_eq (each : Value.AlikeItems args others) (nodes : List Node)
    (next : Nat) : renderNodes args next nodes = renderNodes others next nodes := by
  induction nodes generalizing next with
  | nil => rfl
  | cons node nodes ih =>
    -- Both runs show the same front or stop here, and have the same number next in line.
    simp only [renderNodes, each.render_eq, ih]

/-- Replacing integers of up to 2 ^ 53 by floating point numbers of their values changes neither
what a template renders with them nor how it fails. -/
theorem render_eq_of_alike (each : Value.AlikeItems args others) :
    (∀ template : Template, template.render args = template.render others) ∧
      ∀ source, format source args = format source others := by
  -- Reading does not look at arguments, so that rendering is all that is left.
  have render (template : Template) : template.render args = template.render others := by
    rw [Template.render, Template.render, each.renderNodes_eq]
  refine ⟨render, fun source => ?_⟩
  unfold format
  simp only [render]

/-- Integers in a list, in a map within it and alone are replaced, the greatest of them too. -/
theorem render_eq_of_alike_nested :
    ∃ args others,
      args = [.list [.int 9007199254740992, .map [("n", .int (-3))]], .int 0] ∧
      others =
        [.list [.float (.finite false ⟨0x10000000000000, 1075, by decide, by decide, by decide⟩),
            .map [("n", .float
              (.finite true ⟨0x18000000000000, 1023, by decide, by decide, by decide⟩))]],
          .float (.finite false .zero)] ∧
      Value.AlikeItems args others ∧ format "%j %+.3e" args = format "%j %+.3e" others := by
  refine ⟨_, _, rfl, rfl, ?each, (render_eq_of_alike ?each).2 _⟩
  -- Each number is counted in units.
  have greatest : Value.Alike (.int 9007199254740992) (.float (.finite false
      ⟨0x10000000000000, 1075, by decide, by decide, by decide⟩)) :=
    .whole ⟨_, rfl, Magnitude.value_eq_iff.mpr (by decide +kernel)⟩ (by decide)
  have three : Value.Alike (.int (-3)) (.float (.finite true
      ⟨0x18000000000000, 1023, by decide, by decide, by decide⟩)) :=
    .whole ⟨_, rfl, Magnitude.value_eq_iff.mpr (by decide +kernel)⟩ (by decide)
  have zero : Value.Alike (.int 0) (.float (.finite false .zero)) :=
    .whole ⟨_, rfl, Magnitude.value_eq_iff.mpr (by decide +kernel)⟩ (by decide)
  exact .cons (.list (.cons greatest (.cons (.map (.cons three .nil)) .nil))) (.cons zero .nil)

end TextTemplate
