import TextTemplate.Proofs.Template.Nodes
import TextTemplate.Template.Render

/-! Rendering looks up an argument, follows a path, resolves the value and converts it, in turn. -/

namespace TextTemplate

/-- What a computation yields behind earlier calls, with the calls made by then. -/
def Calls.outcome {α : Type} (computation : Calls α) (before : CallHistory) : α × CallHistory :=
  computation before

/-- Whether a selector takes the next argument in line. -/
def Selector.takesNext : Selector → Bool
  | .number _ => false
  | .next | .path _ => true

/-- Whether a piece takes the next argument in line. -/
def Piece.takesNext : Piece → Bool
  | .literal _ | .percent => false
  | .placeholder request => request.selector.takesNext

/-- The number of the argument of a selector when another is next in line. -/
def Selector.numbered (next : Nat) : Selector → Nat
  | .number position => position
  | .next | .path _ => next

/-- The steps that a selector takes into its argument. -/
def Selector.steps : Selector → List Segment
  | .next | .number _ => []
  | .path segments => segments

/-- Steps lead from a value to another through parts that exist. -/
def Value.Leads (root : Value) (steps : List Segment) (value : Value) : Prop :=
  steps.foldlM Value.child? root = some value

/-- The value that a placeholder shows, which is what a deferred one yields where it is called. -/
def Placeholder.resolved (request : Placeholder) (value : Value) : Calls Value :=
  if request.conversion.callsDeferred then value.resolve else pure value

/-- Computations that make no call are the same when their results are. -/
theorem Calls.pure_inj {α : Type} {a b : α} : (pure a : Calls α) = pure b ↔ a = b :=
  ⟨fun same => congrArg Prod.fst (congrFun same .empty), congrArg pure⟩

@[simp] theorem outcome_pure {α : Type} (a : α) (before : CallHistory) :
    Calls.outcome (pure a) before = (a, before) := rfl

@[simp] theorem outcome_bind {α β : Type} (first : Calls α) (second : α → Calls β)
    (before : CallHistory) :
    Calls.outcome (first >>= second) before =
      (second (first.outcome before).1).outcome (first.outcome before).2 := rfl

@[simp] theorem outcome_map {α β : Type} (f : α → β) (computation : Calls α)
    (before : CallHistory) :
    Calls.outcome (f <$> computation) before =
      (f (computation.outcome before).1, (computation.outcome before).2) := rfl

/-- Following steps succeeds where they lead to the value. -/
theorem follow_eq_ok_iff {root value : Value} {steps : List Segment} :
    root.follow steps = .ok value ↔ root.Leads steps value := by
  induction steps generalizing root with
  | nil => simp [Value.follow, Value.Leads]
  | cons segment steps ih =>
    -- Both go on from the child of the first step, or stop without one.
    cases found : root.child? segment with
    | none => simp [Value.follow, Value.Leads, found]
    | some child => simp [Value.follow, Value.Leads, found, ih]

/-- Following steps fails at the first that does not exist. -/
theorem follow_eq_error_iff {root : Value} {steps : List Segment} {fault : RenderFault} :
    root.follow steps = .error fault ↔
      ∃ front segment back reached, steps = front ++ segment :: back ∧
        root.Leads front reached ∧ reached.child? segment = none ∧
        fault = .noProperty segment := by
  induction steps generalizing root with
  | nil => simp [Value.follow]
  | cons segment steps ih =>
    constructor
    · intro failed
      -- The first step is the missing one, or leads to where the missing one is found.
      cases found : root.child? segment with
      | none =>
        simp only [Value.follow, found, Except.error.injEq] at failed
        exact ⟨[], segment, steps, root, rfl, rfl, found, failed.symm⟩
      | some child =>
        simp only [Value.follow, found] at failed
        obtain ⟨front, last, back, reached, rfl, leads, none, fault⟩ := ih.mp failed
        refine ⟨segment :: front, last, back, reached, rfl, ?_, none, fault⟩
        simpa [Value.Leads, found] using leads
    · intro missing
      obtain ⟨front, last, back, reached, split, leads, none, rfl⟩ := missing
      cases front with
      | nil =>
        cases split
        cases leads
        simp [Value.follow, none]
      | cons first front =>
        cases split
        cases found : root.child? segment with
        | none => simp [Value.Leads, found] at leads
        | some child =>
          -- The child exists, and the steps behind it lead from there.
          simp only [Value.Leads, List.foldlM_cons, found, Option.bind_eq_bind,
            Option.bind_some] at leads
          simp only [Value.follow, found]
          exact ih.mpr ⟨front, last, back, reached, rfl, leads, none, rfl⟩

/-- A selector picks what its steps lead to in the argument with its number. -/
theorem pick_eq (selector : Selector) (args : List Value) (next : Nat) :
    selector.pick args next =
      (argument args (selector.numbered next)).bind (·.follow selector.steps) := by
  -- Without a path there are no steps to follow.
  cases selector with
  | next =>
    show argument args next = (argument args next).bind (·.follow [])
    cases argument args next <;> rfl
  | number position =>
    show argument args position = (argument args position).bind (·.follow [])
    cases argument args position <;> rfl
  | path segments => rfl

/-- A selector that takes the next argument in line has no other number. -/
theorem numbered_of_takesNext {selector : Selector} (takes : selector.takesNext) (next : Nat) :
    selector.numbered next = next := by
  cases selector with
  | next => rfl
  | number position => simp [Selector.takesNext] at takes
  | path segments => rfl

/-- Arguments are counted from one. -/
theorem argument_eq {args : List Value} {number : Nat} (positive : 1 ≤ number) :
    argument args number =
      match args[number - 1]? with
      | some value => .ok value
      | none => .error (.noArgument number args.length) := by
  -- The index of an argument is one less than its number.
  cases number with
  | zero => contradiction
  | succ index => rfl

/-- Converting fails only where a number is needed and the value is none. -/
theorem convert_outcome_eq_error_iff {request : Placeholder} {value : Value}
    {before after : CallHistory} {fault : RenderFault} :
    (request.convert value).outcome before = (.error fault, after) ↔
      request.conversion.isNumeric ∧ request.number? value = none ∧
        fault = .notNumeric request.conversion value.kind ∧ after = before := by
  unfold Placeholder.convert
  split
  · rename_i numeric
    -- A number is shown, and its absence is the fault.
    cases found : request.number? value with
    | some number => simp
    | none => simp [numeric, eq_comm]
  · rename_i other
    -- Conversions to text and to JSON do not fail.
    split <;> simp [other]

/-- Rendering a value resolves and converts it, and puts the text into the field. -/
theorem render_outcome (request : Placeholder) (value : Value) (before : CallHistory) :
    (request.render value).outcome before =
      let (found, called) := (request.resolved value).outcome before
      let (converted, after) := (request.convert found).outcome called
      (converted.map request.compose, after) := by
  unfold Placeholder.render Placeholder.resolved
  -- A value that is not called leaves the calls as they are.
  split <;> rfl

/-- Rendering a value fails only where a number is needed and the value is none. -/
theorem render_outcome_eq_error_iff {request : Placeholder} {value : Value}
    {before after : CallHistory} {fault : RenderFault} :
    (request.render value).outcome before = (.error fault, after) ↔
      ∃ found, (request.resolved value).outcome before = (found, after) ∧
        request.conversion.isNumeric ∧ request.number? found = none ∧
        fault = .notNumeric request.conversion found.kind := by
  rw [render_outcome]
  obtain ⟨found, called⟩ := (request.resolved value).outcome before
  -- Putting a text into a field does not fail.
  have kept : ∀ converted : Except RenderFault Fragment,
      converted.map request.compose = .error fault ↔ converted = .error fault := by
    intro converted
    cases converted <;> simp [Except.map]
  simp only [Prod.mk.injEq, kept]
  rw [← Prod.mk.injEq]
  refine convert_outcome_eq_error_iff.trans ?_
  -- The value that is converted is the resolved one.
  constructor
  · intro failed
    obtain ⟨numeric, none, rfl, rfl⟩ := failed
    exact ⟨found, ⟨rfl, rfl⟩, numeric, none, rfl⟩
  · intro failed
    obtain ⟨_, ⟨rfl, rfl⟩, numeric, none, rfl⟩ := failed
    exact ⟨numeric, none, rfl, rfl⟩

/-- A selector moves the next argument in line by the one that it takes. -/
theorem selector_advance_eq (next : Nat) (selector : Selector) :
    selector.advance next = next + if selector.takesNext then 1 else 0 := by
  cases selector <;> rfl

/-- A piece moves the next argument in line by the one that it takes. -/
theorem advance_eq (next : Nat) (piece : Piece) :
    piece.advance next = next + if piece.takesNext then 1 else 0 := by
  cases piece with
  | literal text => rfl
  | percent => rfl
  | placeholder request => exact selector_advance_eq next request.selector

/-- The first of several nodes is rendered, and the others only where it is shown. -/
theorem renderNodes_cons (args : List Value) (next : Nat) (node : Node) (nodes : List Node)
    (before : CallHistory) :
    (renderNodes args next (node :: nodes)).outcome before =
      match (node.piece.render args next).outcome before with
      | (.error fault, after) => (.error ⟨node.span, fault⟩, after)
      | (.ok front, middle) =>
        match (renderNodes args (node.piece.advance next) nodes).outcome middle with
        | (.error error, after) => (.error error, after)
        | (.ok back, after) => (.ok (front ++ back), after) := by
  rw [renderNodes, outcome_bind]
  obtain ⟨result, middle⟩ := (node.piece.render args next).outcome before
  -- A fault of the first node ends the rendering where it stands.
  cases result with
  | error fault => rfl
  | ok front =>
    simp only [outcome_bind, outcome_pure]
    obtain ⟨result, after⟩ := (renderNodes args (node.piece.advance next) nodes).outcome middle
    cases result <;> rfl

/-- A template is rendered to a text where its nodes are rendered to the characters. -/
theorem template_render_eq_ok_iff {template : Template} {args : List Value}
    {before after : CallHistory} {text : String} :
    (template.render args).outcome before = (.ok text, after) ↔
      (renderNodes args 1 template.nodes).outcome before = (.ok text.toList, after) := by
  simp only [Template.render, outcome_bind, outcome_pure]
  obtain ⟨result, last⟩ := (renderNodes args 1 template.nodes).outcome before
  -- The text is made of the characters of the nodes.
  cases result with
  | error error => simp [Except.map]
  | ok shown => simp [Except.map, ← String.toList_inj]

/-- A template fails where its nodes do. -/
theorem template_render_eq_error_iff {template : Template} {args : List Value}
    {before after : CallHistory} {error : RenderError} :
    (template.render args).outcome before = (.error error, after) ↔
      (renderNodes args 1 template.nodes).outcome before = (.error error, after) := by
  -- Turning characters into a text changes no error.
  simp only [Template.render, outcome_bind, outcome_pure]
  obtain ⟨result, last⟩ := (renderNodes args 1 template.nodes).outcome before
  cases result with
  | error error => simp [Except.map]
  | ok shown => simp [Except.map]

/-- A text that is a template is formatted as its nodes are rendered. -/
theorem format_outcome {source : String} {template : Template}
    (parsed : Template.parse source = .ok template) (args : List Value) (before : CallHistory) :
    (format source args).outcome before =
      match (renderNodes args 1 template.nodes).outcome before with
      | (.error error, after) => (.error (.render error), after)
      | (.ok text, after) => (.ok (String.ofList text), after) := by
  simp only [format, parsed, Template.render, outcome_bind, outcome_pure]
  obtain ⟨result, after⟩ := (renderNodes args 1 template.nodes).outcome before
  cases result <;> rfl

/-- A placeholder alone is formatted as it is rendered with the first argument in line. -/
theorem format_single {cs : List Char} {request : Placeholder}
    (spelled : SpellsPlaceholder cs request) (args : List Value) (before : CallHistory) :
    (format (String.ofList cs) args).outcome before =
      match ((Piece.placeholder request).render args 1).outcome before with
      | (.error fault, after) => (.error (.render ⟨⟨0, byteLength cs⟩, fault⟩), after)
      | (.ok text, after) => (.ok (String.ofList text), after) := by
  rw [format_outcome (parse_placeholder spelled), renderNodes_cons]
  obtain ⟨result, after⟩ := ((Piece.placeholder request).render args 1).outcome before
  -- No node follows, so that nothing is put behind the text.
  cases result with
  | error fault => rfl
  | ok text => simp [renderNodes]

end TextTemplate
