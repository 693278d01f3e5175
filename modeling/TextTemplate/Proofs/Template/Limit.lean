import TextTemplate.Formatter
import TextTemplate.Proofs.Template.Coalesce
import TextTemplate.Proofs.Template.Field

/-! Rendering ends the program where a number is to be written with more decimals than its formatter
counts, and shows what it would show without a limit everywhere else. -/

namespace TextTemplate

/-- A computation yields what another one does, with the same calls, unless it ends the program. -/
def Calls.Follows {α : Type} (limited : Calls (Option α)) (computation : Calls α) : Prop :=
  ∀ before result after, limited.outcome before = (some result, after) →
    computation.outcome before = (result, after)

/-- What is known without a call is yielded with no calls on both sides. -/
theorem Calls.follows_pure {α : Type} (a : α) : Calls.Follows (pure (some a)) (pure a) := by
  intro before result after shown
  cases shown
  rfl

/-- A placeholder asks for decimals that can be counted, whatever number it shows.

General notation has at most five zeros between the point and the digits that are asked for. -/
def Placeholder.Counted (request : Placeholder) : Prop :=
  ∀ precision ∈ request.precision,
    match request.conversion with
    | .exponential | .fixed => precision ≤ maxDecimals
    | .general => precision + 5 ≤ maxDecimals
    | _ => True

variable {request : Placeholder} {value : Value} {number : Number}

/-- General notation asks for few more decimals than it has digits. -/
theorem le_of_mem_generalDecimals {precision count : Nat} {m : Magnitude}
    (member : count ∈ generalDecimals precision m) : count ≤ max precision 1 + 5 := by
  unfold generalDecimals at member
  dsimp only at member
  split at member
  · rw [List.mem_singleton.mp member]
    omega
  · -- Numbers in place are at least a millionth.
    rename_i near
    simp only [List.mem_cons, List.not_mem_nil, or_false] at member
    rcases member with rfl | rfl
    · omega
    · omega

/-- A placeholder that asks for few decimals shows every number. -/
theorem isCountable_of_counted (counted : request.Counted) (value : Value) :
    request.isCountable value := by
  unfold Placeholder.isCountable
  cases request.number? value with
  | none => rfl
  | some number =>
    simp only [Option.all_some, List.all_eq_true, decide_eq_true_eq]
    intro count member
    unfold Placeholder.decimals at member
    split at member
    · -- Only three conversions ask the formatter for decimals.
      rename_i negative m precision finite precise
      have few := counted precision precise
      cases conversion : request.conversion with
      | exponential | fixed =>
        simp only [conversion] at few member
        rwa [List.mem_singleton.mp member]
      | general =>
        simp only [conversion] at few member
        have bounded := le_of_mem_generalDecimals member
        simp only [maxDecimals] at few ⊢
        omega
      | _ =>
        simp only [conversion] at member
        cases member
    · cases member

/-- Rendering a value resolves it, and ends the program before it is converted, or not at all. -/
theorem render?_outcome (request : Placeholder) (value : Value) (before : CallHistory) :
    (request.render? value).outcome before =
      let (found, called) := (request.resolved value).outcome before
      if request.isCountable found then
        let (converted, after) := (request.convert found).outcome called
        (some (converted.map request.compose), after)
      else (none, called) := by
  have resolves : request.render? value = request.resolved value >>= fun found =>
      if request.isCountable found then
        return some ((← request.convert found).map request.compose)
      else return none := by
    unfold Placeholder.render? Placeholder.resolved
    -- A value that is not called leaves the calls as they are.
    split <;> rfl
  rw [resolves, outcome_bind]
  obtain ⟨found, called⟩ := (request.resolved value).outcome before
  dsimp only
  split <;> rfl

/-- What a placeholder shows of a value does not depend on the limit. -/
theorem Placeholder.render?_follows (request : Placeholder) (value : Value) :
    (request.render? value).Follows (request.render value) := by
  intro before result after
  rw [render?_outcome, render_outcome]
  obtain ⟨found, called⟩ := (request.resolved value).outcome before
  intro shown
  -- The program goes on where the value that is found can be written.
  dsimp only at shown
  split at shown
  · cases shown
    rfl
  · cases shown

/-- What is shown of a piece does not depend on the limit. -/
theorem Piece.render?_follows (args : List Value) (next : Nat) (piece : Piece) :
    (piece.render? args next).Follows (piece.render args next) := by
  cases piece with
  | literal | percent => exact Calls.follows_pure _
  | placeholder request =>
    simp only [Piece.render?, Piece.render]
    -- Only a value that is picked can end the program.
    cases request.selector.pick args next with
    | ok value => exact request.render?_follows value
    | error fault => exact Calls.follows_pure _

/-- What is shown of nodes does not depend on the limit. -/
theorem renderNodes?_follows (args : List Value) (next : Nat) (nodes : List Node) :
    (renderNodes? args next nodes).Follows (renderNodes args next nodes) := by
  induction nodes generalizing next with
  | nil => exact Calls.follows_pure _
  | cons node nodes ih =>
    intro before result after
    rw [renderNodes?, outcome_bind, renderNodes_cons]
    have first := node.piece.render?_follows args next before
    generalize (node.piece.render? args next).outcome before = outcome at first
    obtain ⟨front, middle⟩ := outcome
    intro shown
    -- Unless the first node ends the program, it is shown, or it is the one that fails.
    cases front with
    | none => cases shown
    | some front =>
      rw [first front middle rfl]
      cases front with
      | error fault =>
        cases shown
        rfl
      | ok front =>
        have rest := ih (node.piece.advance next) middle
        simp only [outcome_bind, outcome_pure] at shown
        generalize (renderNodes? args _ nodes).outcome middle = outcome at rest shown
        obtain ⟨back, last⟩ := outcome
        cases back with
        | none => cases shown
        | some back =>
          cases shown
          simp only [rest back last rfl]
          cases back <;> rfl

/-- A result can be changed on both sides. -/
theorem Calls.Follows.map {α β : Type} {limited : Calls (Option α)} {computation : Calls α}
    (follows : limited.Follows computation) (f : α → β) :
    Calls.Follows (Option.map f <$> limited) (f <$> computation) := by
  -- The result is changed behind the calls, and only where there is one.
  intro before result after shown
  rw [outcome_map] at shown ⊢
  have same := follows before
  generalize limited.outcome before = outcome at same shown
  obtain ⟨found, last⟩ := outcome
  cases found with
  | none => cases shown
  | some found =>
    rw [same found last rfl]
    cases shown
    rfl

/-- What is shown of a template does not depend on the limit. -/
theorem Template.render?_follows (template : Template) (args : List Value) :
    (template.render? args).Follows (template.render args) :=
  (renderNodes?_follows args 1 template.nodes).map _

/-- What is formatted does not depend on the limit. -/
theorem format?_follows (source : String) (args : List Value) :
    (format? source args).Follows (format source args) := by
  unfold format? format
  cases Template.parse source with
  | ok template => exact (template.render?_follows args).map _
  -- A text that is no template is refused before any number is asked for.
  | error error => exact Calls.follows_pure _

/-- What a formatter shows does not depend on the limit, and neither do the templates it keeps. -/
theorem Formatter.render?_follows (formatter : Formatter) (source : String) (args : List Value) :
    Calls.Follows
      ((fun (result, behind) => result.map (·, behind)) <$> formatter.render? source args)
      (formatter.render source args) := by
  unfold Formatter.render? Formatter.render
  obtain ⟨result, behind⟩ := formatter.parse source
  -- The template is the kept one in both.
  cases result with
  | ok kept =>
    obtain ⟨template, slot⟩ := kept
    intro before result after shown
    refine (template.render?_follows args).map (fun result => (result.mapError _, behind)) _ _ _ ?_
    rw [← shown]
    simp only [outcome_map, outcome_bind, outcome_pure, Option.map_map]
    rfl
  | error error => exact Calls.follows_pure _

/-- Where few decimals are asked for, a placeholder shows each value as it does without a limit. -/
theorem Placeholder.render?_of_counted (counted : request.Counted) (value : Value) :
    request.render? value = some <$> request.render value := by
  funext before
  refine (render?_outcome request value before).trans ?_
  -- Whatever value is found, its decimals are counted.
  simp only [isCountable_of_counted counted, if_true]
  exact congrArg (Prod.map some id) (render_outcome request value before).symm

/-- Where placeholders ask for few decimals, nodes are rendered as they are without a limit. -/
theorem renderNodes?_of_counted {nodes : List Node}
    (counted : ∀ node ∈ nodes, ∀ request, node.piece = .placeholder request → request.Counted)
    (args : List Value) (next : Nat) :
    renderNodes? args next nodes = some <$> renderNodes args next nodes := by
  induction nodes generalizing next with
  | nil => rfl
  | cons node nodes ih =>
    have rest := ih (fun other member => counted other (List.mem_cons_of_mem node member))
    -- The first node is rendered without ending the program, and so are the others behind it.
    have first : node.piece.render? args next = some <$> node.piece.render args next := by
      cases piece : node.piece with
      | literal | percent => rfl
      | placeholder request =>
        simp only [Piece.render?, Piece.render]
        cases request.selector.pick args next with
        | ok value => exact request.render?_of_counted (counted node (by simp) request piece) value
        | error fault => rfl
    funext before
    show (renderNodes? args next (node :: nodes)).outcome before =
      (some <$> renderNodes args next (node :: nodes)).outcome before
    rw [renderNodes?, first, outcome_bind, outcome_map, outcome_map, renderNodes_cons]
    obtain ⟨front, middle⟩ := (node.piece.render args next).outcome before
    cases front with
    | error fault => rfl
    | ok front =>
      simp only [rest, outcome_bind, outcome_map, outcome_pure]
      obtain ⟨back, last⟩ := (renderNodes args _ nodes).outcome middle
      cases back <;> rfl

/-- A template whose placeholders ask for few decimals is formatted as it is without a limit. -/
theorem format?_of_counted {source : String} {template : Template}
    (parsed : Template.parse source = .ok template)
    (counted : ∀ placed ∈ template.placeholders, placed.2.Counted) (args : List Value) :
    format? source args = some <$> format source args := by
  -- The placeholders of a template are those of its nodes.
  have each : ∀ node ∈ template.nodes, ∀ request, node.piece = .placeholder request →
      request.Counted := by
    intro node member request piece
    rw [placeholders_eq] at counted
    refine counted (node.span, request) (List.mem_filterMap.mpr ⟨node, member, ?_⟩)
    rw [Node.placeholder?, piece]
  simp only [format?, format, parsed, Template.render?, Template.render,
    renderNodes?_of_counted each]
  rfl

/-- A value is rendered as the number that it stands for, where its decimals are counted. -/
theorem render?_number (numeric : request.conversion.isNumeric)
    (found : request.number? value = some number) :
    request.render? value =
      pure (if ∀ count ∈ request.decimals number, count ≤ maxDecimals then
        some (.ok (request.compose (request.convertNumber number))) else none) := by
  have countable : request.isCountable value =
      decide (∀ count ∈ request.decimals number, count ≤ maxDecimals) := by
    rw [Placeholder.isCountable, found, Option.all_some, List.decide_forall_mem]
  -- A number is no deferred value, so that nothing is called.
  have resolved : request.resolved value = pure value := by
    rw [Placeholder.resolved, resolve_of_number? found, ite_self]
  have converted : request.convert value = pure (.ok (request.convertNumber number)) := by
    simp only [Placeholder.convert, numeric, if_true, found]
  funext before
  refine (render?_outcome request value before).trans ?_
  simp only [resolved, converted, countable, outcome_pure, decide_eq_true_eq]
  split <;> rfl

/-- A template of one placeholder is rendered as the placeholder is, or ends the program with it. -/
theorem format?_alone (valid : request.WellFormed) (next : request.selector = .next)
    {result : Option (List Char)} (shown : request.render? value = pure (result.map .ok)) :
    format? (printed [.placeholder request]) [value] =
      pure (result.map fun text => .ok (String.ofList text)) := by
  have picked : request.selector.pick [value] 1 = .ok value := by
    rw [next]
    rfl
  have text : printed [.placeholder request] = String.ofList request.spelling.text := by
    simp [printed, Piece.printed]
  simp only [text, format?, parse_placeholder valid.spells, Template.render?, renderNodes?,
    Piece.render?, picked, shown]
  -- Nothing is put behind the only node.
  cases result with
  | none => rfl
  | some text => simp [Except.map, Except.mapError]

end TextTemplate
