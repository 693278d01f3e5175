import TextTemplate.Proofs.Template.Printer
import TextTemplate.Proofs.Template.Rendering

/-! Rendering gives each placeholder the argument whose number the template fixes for it. -/

namespace TextTemplate

/-- The number of the argument of a piece behind others.

It is an explicit one, or else counts the earlier placeholders without an explicit one. -/
def Piece.assigned (earlier : List Piece) : Piece → Nat
  | .literal _ | .percent => 0
  | .placeholder request => request.selector.numbered (1 + earlier.countP Piece.takesNext)

/-- Nodes behind earlier pieces, each with the number of its argument. -/
def assignments (earlier : List Piece) (nodes : List Node) : List (Node × Nat) :=
  nodes.mapIdx fun index node =>
    (node, node.piece.assigned (earlier ++ (nodes.take index).map Node.piece))

/-- What becomes of a placeholder with an argument of a fixed number. -/
inductive Placeholder.Fares (args : List Value) (number : Nat) (request : Placeholder)
    (before : CallHistory) : Except RenderFault (List Char) → CallHistory → Prop where
  /-- The number exceeds the count of arguments. -/
  | beyond : args.length < number →
      Fares args number request before (.error (.noArgument number args.length)) before
  /-- A step does not exist, and all steps before it do. -/
  | missing {root reached : Value} {front back : List Segment} {segment : Segment} :
      args[number - 1]? = some root → request.selector.steps = front ++ segment :: back →
      root.Leads front reached → reached.child? segment = none →
      Fares args number request before (.error (.noProperty segment)) before
  /-- A number is needed and the value is none. -/
  | unsuitable {root value found : Value} {after : CallHistory} :
      args[number - 1]? = some root → root.Leads request.selector.steps value →
      (request.resolved value).outcome before = (found, after) → request.conversion.isNumeric →
      request.number? found = none →
      Fares args number request before (.error (.notNumeric request.conversion found.kind)) after
  /-- The value is shown. -/
  | shown {root value : Value} {text : List Char} {after : CallHistory} :
      args[number - 1]? = some root → root.Leads request.selector.steps value →
      (request.render value).outcome before = (.ok text, after) →
      Fares args number request before (.ok text) after

/-- What becomes of a piece: all but placeholders are shown as they are. -/
inductive Piece.Fares (args : List Value) (number : Nat) (before : CallHistory) :
    Piece → Except RenderFault (List Char) → CallHistory → Prop where
  | literal {text : String} : Fares args number before (.literal text) (.ok text.toList) before
  | percent : Fares args number before .percent (.ok ['%']) before
  | placeholder {request : Placeholder} {outcome : Except RenderFault (List Char)}
      {after : CallHistory} :
      request.Fares args number before outcome after →
      Fares args number before (.placeholder request) outcome after

/-- All nodes with their numbers are shown, one after the other. -/
inductive AllShown (args : List Value) :
    List (Node × Nat) → CallHistory → List Char → CallHistory → Prop where
  | done {history : CallHistory} : AllShown args [] history [] history
  | step {node : Node} {number : Nat} {rest : List (Node × Nat)} {text texts : List Char}
      {before middle after : CallHistory} :
      node.piece.Fares args number before (.ok text) middle →
      AllShown args rest middle texts after →
      AllShown args ((node, number) :: rest) before (text ++ texts) after

/-- A placeholder fares as it is rendered when its argument is picked by its number. -/
theorem placeholder_outcome_iff {args : List Value} {next : Nat} {request : Placeholder}
    (positive : 1 ≤ request.selector.numbered next) {before after : CallHistory}
    {result : Except RenderFault (List Char)} :
    ((Piece.placeholder request).render args next).outcome before = (result, after) ↔
      request.Fares args (request.selector.numbered next) before result after := by
  have picked := pick_eq request.selector args next
  rw [argument_eq positive] at picked
  simp only [Piece.render]
  generalize request.selector.numbered next = number at *
  constructor
  · -- The cases follow the order of the checks: the argument, the path, and the value.
    intro rendered
    -- No argument has a number above their count.
    cases given : args[number - 1]? with
    | none =>
      have few : args.length < number := by
        have := List.getElem?_eq_none_iff.mp given
        omega
      simp only [picked, given, Except.bind] at rendered
      cases rendered
      exact .beyond few
    | some root =>
      -- A missing step is the first one that does not exist.
      cases followed : root.follow request.selector.steps with
      | error fault =>
        simp only [picked, given, Except.bind, followed] at rendered
        cases rendered
        obtain ⟨front, segment, back, reached, split, leads, none, rfl⟩ :=
          follow_eq_error_iff.mp followed
        exact .missing given split leads none
      | ok value =>
        simp only [picked, given, Except.bind, followed] at rendered
        have leads := follow_eq_ok_iff.mp followed
        -- What is reached is shown, unless a number is needed and it is none.
        cases result with
        | ok text => exact .shown given leads rendered
        | error fault =>
          obtain ⟨found, resolved, numeric, none, rfl⟩ := render_outcome_eq_error_iff.mp rendered
          exact .unsuitable given leads resolved numeric none
  · intro fares
    -- Each case fixes what the checks before it have found.
    cases fares with
    | beyond few =>
      have none : args[number - 1]? = none := List.getElem?_eq_none (by omega)
      simp only [picked, none, Except.bind]
      rfl
    | missing given split leads none =>
      have followed := follow_eq_error_iff.mpr ⟨_, _, _, _, split, leads, none, rfl⟩
      simp only [picked, given, Except.bind, followed]
      rfl
    | unsuitable given leads resolved numeric none =>
      simp only [picked, given, Except.bind, follow_eq_ok_iff.mpr leads]
      exact render_outcome_eq_error_iff.mpr ⟨_, resolved, numeric, none, rfl⟩
    | shown given leads rendered =>
      simp only [picked, given, Except.bind, follow_eq_ok_iff.mpr leads]
      exact rendered

/-- A piece fares behind others as it is rendered when they leave its argument next in line. -/
theorem piece_outcome_iff {args : List Value} {piece : Piece} (valid : piece.WellFormed)
    (earlier : List Piece) {before after : CallHistory}
    {result : Except RenderFault (List Char)} :
    (piece.render args (1 + earlier.countP Piece.takesNext)).outcome before = (result, after) ↔
      piece.Fares args (piece.assigned earlier) before result after := by
  cases piece with
  -- Text and percent signs are shown without an argument.
  | literal text =>
    constructor
    · intro rendered
      cases rendered
      exact .literal
    · intro fares
      cases fares
      rfl
  | percent =>
    constructor
    · intro rendered
      cases rendered
      exact .percent
    · intro fares
      cases fares
      rfl
  | placeholder request =>
    -- An explicit number counts from one, and the count of the others starts there.
    have positive : 1 ≤ request.selector.numbered (1 + earlier.countP Piece.takesNext) := by
      have selector := Placeholder.WellFormed.selector valid
      cases selected : request.selector with
      | next => simp [Selector.numbered]
      | number position =>
        rw [selected] at selector
        exact selector.1
      | path segments => simp [Selector.numbered]
    rw [placeholder_outcome_iff positive]
    constructor
    · exact .placeholder
    · intro fares
      cases fares
      assumption

/-- Behind a piece, the next argument in line is the one that the pieces up to it leave. -/
theorem advance_behind (earlier : List Piece) (piece : Piece) :
    piece.advance (1 + earlier.countP Piece.takesNext) =
      1 + (earlier ++ [piece]).countP Piece.takesNext := by
  -- A piece takes one argument in line or none.
  rw [advance_eq, List.countP_append, List.countP_singleton, Nat.add_assoc]

/-- The first node is behind the earlier pieces, and the others are behind it too. -/
theorem assignments_cons (earlier : List Piece) (node : Node) (nodes : List Node) :
    assignments earlier (node :: nodes) =
      (node, node.piece.assigned earlier) :: assignments (earlier ++ [node.piece]) nodes := by
  -- The number of a node depends on the pieces in front of it alone.
  simp [assignments, List.mapIdx_cons]

/-- Nodes are rendered to a text exactly when each is shown with the argument of its number.

The next argument in line is always the one behind those that earlier pieces have taken. -/
theorem renderNodes_eq_ok_iff {args : List Value} {nodes : List Node}
    (valid : ∀ node ∈ nodes, node.piece.WellFormed) (earlier : List Piece)
    {before after : CallHistory} {text : List Char} :
    (renderNodes args (1 + earlier.countP Piece.takesNext) nodes).outcome before =
        (.ok text, after) ↔
      AllShown args (assignments earlier nodes) before text after := by
  induction nodes generalizing earlier before text with
  | nil =>
    constructor
    · intro rendered
      cases rendered
      exact .done
    · intro shown
      cases shown
      rfl
  | cons node nodes ih =>
    -- The first node fares by its number, and behind it the cursor counts it as earlier.
    have first := @piece_outcome_iff args node.piece (valid node (by simp)) earlier
    have rest := @ih (fun other member => valid other (by simp [member])) (earlier ++ [node.piece])
    rw [renderNodes_cons, assignments_cons, advance_behind]
    constructor
    · intro rendered
      split at rendered
      · cases rendered
      · rename_i front middle shown
        split at rendered
        · cases rendered
        · rename_i onward
          cases rendered
          -- Both are shown, one after the other.
          exact .step (first.mp shown) (rest.mp onward)
    · intro shown
      cases shown with
      | step fares onward =>
        simp only [first.mpr fares, rest.mpr onward]

/-- Nodes fail exactly where the first node fails that is not shown. -/
theorem renderNodes_eq_error_iff {args : List Value} {nodes : List Node}
    (valid : ∀ node ∈ nodes, node.piece.WellFormed) (earlier : List Piece)
    {before after : CallHistory} {error : RenderError} :
    (renderNodes args (1 + earlier.countP Piece.takesNext) nodes).outcome before =
        (.error error, after) ↔
      ∃ front node number back text middle,
        assignments earlier nodes = front ++ (node, number) :: back ∧
        AllShown args front before text middle ∧
        node.piece.Fares args number middle (.error error.fault) after ∧
        error.span = node.span := by
  induction nodes generalizing earlier before with
  | nil =>
    constructor
    · intro rendered
      cases rendered
    · intro failing
      obtain ⟨front, node, number, back, text, middle, split, _⟩ := failing
      simp [assignments] at split
  | cons node nodes ih =>
    -- As for a text, the cursor behind the first node counts it as earlier.
    have first := @piece_outcome_iff args node.piece (valid node (by simp)) earlier
    have rest := @ih (fun other member => valid other (by simp [member])) (earlier ++ [node.piece])
    rw [renderNodes_cons, assignments_cons, advance_behind]
    constructor
    · intro rendered
      split at rendered
      · rename_i failed
        cases rendered
        -- The first node itself fails, with nothing shown before it.
        exact ⟨[], node, _, _, [], before, rfl, .done, first.mp failed, rfl⟩
      · rename_i shown
        split at rendered
        · rename_i failed
          cases rendered
          obtain ⟨front, failing, number, back, text, reached, split, onward, fails, place⟩ :=
            rest.mp failed
          -- The failing node stands behind the first one, which is shown.
          exact ⟨_ :: front, failing, number, back, _, reached, by rw [split]; rfl,
            .step (first.mp shown) onward, fails, place⟩
        · cases rendered
    · intro failure
      obtain ⟨front, failing, number, back, text, middle, split, shown, fails, place⟩ := failure
      cases front with
      | nil =>
        obtain ⟨⟨rfl, rfl⟩, rfl⟩ : (node = failing ∧ node.piece.assigned earlier = number) ∧
            assignments (earlier ++ [node.piece]) nodes = back := by simpa using split
        cases shown
        simp only [first.mpr fails, ← place]
      | cons pair front =>
        obtain ⟨rfl, behind⟩ := List.cons.inj split
        cases shown with
        | step fares onward =>
          have failed := rest.mpr ⟨front, failing, number, back, _, middle, behind, onward, fails,
            place⟩
          simp only [first.mpr fares, failed]

/-- A placeholder misses its argument exactly when the number exceeds the count of arguments. -/
theorem Piece.Fares.noArgument_iff {args : List Value} {number : Nat} {piece : Piece}
    {before after : CallHistory} {fault : RenderFault}
    (fares : piece.Fares args number before (.error fault) after) :
    (∃ asked available, fault = .noArgument asked available) ↔ args.length < number := by
  -- Where an argument is given, its number is within the count.
  have given : ∀ {root : Value}, args[number - 1]? = some root → ¬args.length < number := by
    intro root found
    have := (List.getElem?_eq_some_iff.mp found).1
    omega
  cases fares with
  | placeholder fares =>
    -- The other faults come up only where the argument is given.
    cases fares with
    | beyond few => exact ⟨fun _ => few, fun _ => ⟨_, _, rfl⟩⟩
    | missing found => simp [given found]
    | unsuitable found => simp [given found]

/-- Rendering gives each placeholder the argument that is fixed for it, whatever the interleaving.

All pieces are shown one after the other, or the first placeholder that fails says where and why:
an argument is missing exactly when its number exceeds the count of arguments. -/
theorem render_assigned {source : String} {template : Template}
    (parsed : Template.parse source = .ok template) (args : List Value)
    (before after : CallHistory) :
    (∀ text, (template.render args).outcome before = (.ok text, after) ↔
      AllShown args (assignments [] template.nodes) before text.toList after) ∧
    ∀ error, (template.render args).outcome before = (.error error, after) ↔
      ∃ front node number back text middle,
        assignments [] template.nodes = front ++ (node, number) :: back ∧
        AllShown args front before text middle ∧
        node.piece.Fares args number middle (.error error.fault) after ∧
        error.span = node.span ∧
        ((∃ asked available, error.fault = .noArgument asked available) ↔
          args.length < number) := by
  obtain ⟨parts, decomposes, rfl⟩ := parse_eq_ok_iff.mp parsed
  -- The nodes of a template are spelled, so explicit numbers count from one.
  have valid : ∀ node ∈ layOut 0 parts, node.piece.WellFormed := by
    intro node member
    refine decomposes.wellFormed.each node.piece ?_
    rw [← map_piece_layOut 0]
    exact List.mem_map_of_mem member
  -- Both outcomes are those of the nodes, from the first argument on.
  refine ⟨fun text => ?_, fun error => ?_⟩
  · rw [template_render_eq_ok_iff]
    exact renderNodes_eq_ok_iff valid []
  · rw [template_render_eq_error_iff]
    refine (renderNodes_eq_error_iff valid []).trans ?_
    constructor
    · intro failure
      obtain ⟨front, node, number, back, text, middle, split, shown, fails, place⟩ := failure
      exact ⟨front, node, number, back, text, middle, split, shown, fails, place,
        fails.noArgument_iff⟩
    · intro failure
      obtain ⟨front, node, number, back, text, middle, split, shown, fails, place, _⟩ := failure
      exact ⟨front, node, number, back, text, middle, split, shown, fails, place⟩

/-- An explicit number takes no argument in line, so the placeholder behind gets the first. -/
theorem render_assigned_past_number :
    ∃ template, Template.parse "%2$t%d" = .ok template ∧
      (template.render [.int 7, .text ""]).outcome .empty = (.ok "false7", .empty) ∧
      (template.render [.null, .text ""]).outcome .empty =
        (.error ⟨⟨4, 6⟩, .notNumeric .decimal .null⟩, .empty) := by
  let truth := Placeholder.plain (.number 2) .truth
  let decimal := Placeholder.plain .next .decimal
  let pieces : List Piece := [.placeholder truth, .placeholder decimal]
  have written : printed pieces = "%2$t%d" := by decide
  have valid : WellFormed pieces := by
    have numbered : Selector.WellFormed (.number 2) := ⟨by decide, by decide⟩
    have truthValid : truth.WellFormed := Placeholder.plain_wellFormed _ _ numbered
    have decimalValid : decimal.WellFormed := Placeholder.plain_wellFormed .next _ trivial
    refine ⟨?_, ?_, ?_⟩
    · simp [pieces, Piece.WellFormed, truthValid, decimalValid]
    · simp [pieces, Piece.Apart, Piece.isLiteral]
    · simp [pieces, Unmixed, Selector.IsPath, truth, decimal, Placeholder.plain]
  have parsed := valid.parse_printed
  rw [written] at parsed
  -- The second placeholder is the first without a number of its own.
  have assigned : assignments [] (layOut 0 (pieces.map Piece.part)) =
      [(⟨⟨0, 4⟩, .placeholder truth⟩, 2)] ++ (⟨⟨4, 6⟩, .placeholder decimal⟩, 1) :: [] := by decide
  have first (value : Value) :
      Placeholder.Fares [value, .text ""] 2 truth .empty (.ok "false".toList) .empty :=
    .shown rfl rfl rfl
  have second : Placeholder.Fares [.int 7, .text ""] 1 decimal .empty (.ok "7".toList) .empty :=
    .shown rfl rfl rfl
  have failing : Placeholder.Fares [.null, .text ""] 1 decimal .empty
      (.error (.notNumeric .decimal .null)) .empty :=
    @Placeholder.Fares.unsuitable _ _ _ _ .null .null .null .empty rfl rfl rfl rfl rfl
  refine ⟨_, parsed, ((render_assigned parsed _ _ _).1 _).mpr ?_,
    ((render_assigned parsed _ _ _).2 _).mpr ?_⟩
  · have shown : AllShown [.int 7, .text ""]
        [(⟨⟨0, 4⟩, .placeholder truth⟩, 2), (⟨⟨4, 6⟩, .placeholder decimal⟩, 1)] .empty
        ("false".toList ++ ("7".toList ++ [])) .empty :=
      .step (.placeholder (first _)) (.step (.placeholder second) .done)
    rw [assigned]
    exact shown
  · exact ⟨_, _, _, _, _, _, assigned, .step (.placeholder (first _)) .done,
      .placeholder failing, rfl, by simp⟩

end TextTemplate
