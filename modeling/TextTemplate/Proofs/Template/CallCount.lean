import TextTemplate.Proofs.Template.Assignment
import TextTemplate.Proofs.Value.Deferred

/-! Each placeholder calls the deferred value that it resolves to once, up to the first placeholder
that fails. -/

namespace TextTemplate

/-- Whether a value is deferred under an identity. -/
def Value.hasIdentity (id : Nat) : Value → Bool
  | .deferred other _ _ => other = id
  | _ => false

/-- Whether nothing in a value is deferred, or all of it is and nothing in its results. -/
def Value.isShallow : Value → Bool
  | .deferred _ early steady => areCallFree early && steady.isCallFree
  | value => value.isCallFree

/-- Whether a placeholder shows what a deferred value yields. -/
def Placeholder.usesResult (request : Placeholder) : Bool :=
  request.conversion ≠ .kind && request.conversion ≠ .primitive

/-- The value that a piece resolves to when its argument has a number. -/
def Piece.target? (args : List Value) (number : Nat) : Piece → Option Value
  | .literal _ | .percent => none
  | .placeholder request => do request.selector.steps.foldlM Value.child? (← args[number - 1]?)

/-- Whether a piece shows what the deferred value with an identity yields. -/
def Piece.calls (args : List Value) (number id : Nat) : Piece → Bool
  | .literal _ | .percent => false
  | .placeholder request =>
    request.usesResult && ((Piece.placeholder request).target? args number).any (·.hasIdentity id)

/-- How often a deferred value has been called behind nodes with the numbers of their arguments. -/
def countBehind (args : List Value) (before : CallHistory) (visited : List (Node × Nat))
    (id : Nat) : Nat :=
  before.count id + visited.countP fun (node, number) => node.piece.calls args number id

/-- The value that a placeholder converts where each deferred value has been called some times. -/
def Placeholder.found (request : Placeholder) (earlier : Nat → Nat) : Value → Value
  | .deferred id early steady =>
    if request.usesResult then early.getD (earlier id) steady else .deferred id early steady
  | value => value

/-- A placeholder makes a result out of a value, and makes no call for it. -/
def Placeholder.Converts (request : Placeholder) (value : Value)
    (result : Except RenderFault (List Char)) : Prop :=
  ∃ converted, (∀ before, (request.convert value).outcome before = (converted, before)) ∧
    converted.map request.compose = result

/-- What becomes of a piece with an argument of a fixed number where each deferred value has been
called some times. -/
inductive Piece.FaresOnce (args : List Value) (number : Nat) (earlier : Nat → Nat) :
    Piece → Except RenderFault (List Char) → Prop where
  | literal {text : String} : FaresOnce args number earlier (.literal text) (.ok text.toList)
  | percent : FaresOnce args number earlier .percent (.ok ['%'])
  /-- The number exceeds the count of arguments. -/
  | beyond {request : Placeholder} : args.length < number →
      FaresOnce args number earlier (.placeholder request)
        (.error (.noArgument number args.length))
  /-- A step does not exist, and all steps before it do. -/
  | missing {request : Placeholder} {root reached : Value} {front back : List Segment}
      {segment : Segment} :
      args[number - 1]? = some root → request.selector.steps = front ++ segment :: back →
      root.Leads front reached → reached.child? segment = none →
      FaresOnce args number earlier (.placeholder request) (.error (.noProperty segment))
  /-- The value is converted, or what it yields next where it is deferred. -/
  | converted {request : Placeholder} {value : Value} {result : Except RenderFault (List Char)} :
      (Piece.placeholder request).target? args number = some value →
      request.Converts (request.found earlier value) result →
      FaresOnce args number earlier (.placeholder request) result

/-- Nodes are visited one after the other, each behind the calls of those before it, and at most
the last of them fails. -/
inductive Visits (args : List Value) (before : CallHistory) :
    List (Node × Nat) → Except RenderError (List Char) → Prop where
  | start : Visits args before [] (.ok [])
  | shown {front : List (Node × Nat)} {node : Node} {number : Nat} {text more : List Char} :
      Visits args before front (.ok text) →
      node.piece.FaresOnce args number (countBehind args before front) (.ok more) →
      Visits args before (front ++ [(node, number)]) (.ok (text ++ more))
  | failed {front : List (Node × Nat)} {node : Node} {number : Nat} {text : List Char}
      {fault : RenderFault} :
      Visits args before front (.ok text) →
      node.piece.FaresOnce args number (countBehind args before front) (.error fault) →
      Visits args before (front ++ [(node, number)]) (.error ⟨node.span, fault⟩)

variable {args : List Value} {number : Nat} {request : Placeholder} {value root : Value}
  {before after : CallHistory}

/-- A placeholder shows what a deferred value yields where its conversion calls one. -/
theorem usesResult_eq (request : Placeholder) :
    request.usesResult = request.conversion.callsDeferred := by
  -- The two conversions that are named here are the ones that call nothing.
  unfold Placeholder.usesResult
  cases request.conversion <;> rfl

/-- A piece resolves to what its steps lead to in its argument. -/
theorem target?_eq_some_iff (given : args[number - 1]? = some root) :
    (Piece.placeholder request).target? args number = some value ↔
      root.Leads request.selector.steps value := by
  simp [Piece.target?, given, Value.Leads]

/-- A piece does not resolve where its argument is missing. -/
theorem target?_beyond (piece : Piece) (few : args.length < number) :
    piece.target? args number = none := by
  -- An argument beyond the last one is not given.
  cases piece with
  | literal | percent => rfl
  | placeholder request =>
    have none : args[number - 1]? = none := List.getElem?_eq_none (by omega)
    simp [Piece.target?, none]

/-- A piece does not resolve where a step is missing. -/
theorem target?_missing {front back : List Segment} {segment : Segment} {reached : Value}
    (given : args[number - 1]? = some root)
    (split : request.selector.steps = front ++ segment :: back) (leads : root.Leads front reached)
    (ends : reached.child? segment = none) :
    (Piece.placeholder request).target? args number = none := by
  -- The steps are followed to the missing one, which ends the search.
  rw [Value.Leads] at leads
  simp [Piece.target?, given, split, leads, ends]

/-- Converting makes no call where no deferred value is dumped. -/
theorem convert_settles (request : Placeholder) (quiet : value.dumpsDeferred = false)
    (free : request.conversion = .json → value.isCallFree) : (request.convert value).Settles := by
  unfold Placeholder.convert
  split
  · -- Numbers are read off the value as it stands.
    split <;> exact Calls.settles_pure _
  · split
    · rename_i json
      have dumped : (value.dump request.indent).Settles :=
        (Value.toJson_settles value (free json)).bind fun _ => Calls.settles_pure _
      exact dumped.bind fun _ => Calls.settles_pure _
    · exact Calls.settles_pure _
    · exact Calls.settles_pure _
    · exact (Value.display_settles value quiet).bind fun _ => Calls.settles_pure _

/-- What is converted of a shallow value is converted without a call. -/
theorem exists_converts (request : Placeholder) (shallow : value.isShallow) (earlier : Nat → Nat) :
    ∃ converted, ∀ before,
      (request.convert (request.found earlier value)).outcome before = (converted, before) := by
  refine Calls.Settles.outcome ?_
  -- A value without deferred values settles under every conversion.
  have settles : ∀ value : Value, value.isCallFree → (request.convert value).Settles :=
    fun value free => convert_settles request (Value.dumpsDeferred_of_isCallFree value free)
      fun _ => free
  cases value with
  | deferred id early steady =>
    obtain ⟨each, last⟩ := Bool.and_eq_true_iff.mp shallow
    by_cases uses : request.usesResult
    · have found : request.found earlier (.deferred id early steady) =
          early.getD (earlier id) steady := if_pos uses
      rw [found, List.getD_eq_getElem?_getD]
      -- Each result is free of deferred values.
      cases reached : early[earlier id]? with
      | none => exact settles _ last
      | some result =>
        exact settles _ (Value.areCallFree_iff.mp each result (List.mem_of_getElem? reached))
    · have found : request.found earlier (.deferred id early steady) =
          .deferred id early steady := if_neg uses
      rw [found]
      refine convert_settles request rfl ?_
      intro json
      simp [Placeholder.usesResult, json] at uses
  | _ => exact settles _ shallow

/-- A value that is rendered yields its next result where it is deferred, and is called for it. -/
theorem resolved_outcome (request : Placeholder) (value : Value) (before : CallHistory) :
    ((request.resolved value).outcome before).1 = request.found before.count value ∧
      ∀ id, ((request.resolved value).outcome before).2.count id =
        before.count id + if request.usesResult && value.hasIdentity id then 1 else 0 := by
  unfold Placeholder.resolved
  rw [← usesResult_eq]
  -- A value is only called where its result is used.
  by_cases uses : request.usesResult
  · rw [if_pos uses, uses]
    cases value with
    | deferred other early steady =>
      refine ⟨(if_pos uses).symm, ?_⟩
      -- The call is recorded under the identity of the value.
      intro id
      simp only [Value.hasIdentity, Bool.true_and, decide_eq_true_eq]
      exact List.count_cons.trans (by simp [CallHistory.count])
    | _ => exact ⟨rfl, fun id => rfl⟩
  · rw [if_neg uses, Bool.eq_false_iff.mpr uses]
    refine ⟨?_, fun id => rfl⟩
    cases value with
    | deferred other early steady => exact (if_neg uses).symm
    | _ => rfl

/-- Rendering a shallow value converts it, or its next result where it is deferred. -/
theorem render_shallow (request : Placeholder) (shallow : value.isShallow) (before : CallHistory) :
    request.Converts (request.found before.count value) ((request.render value).outcome before).1 ∧
      ∀ id, ((request.render value).outcome before).2.count id =
        before.count id + if request.usesResult && value.hasIdentity id then 1 else 0 := by
  obtain ⟨converted, settled⟩ := exists_converts request shallow before.count
  obtain ⟨found, counted⟩ := resolved_outcome request value before
  -- Only the call of the value itself is recorded.
  have rendered : (request.render value).outcome before =
      (converted.map request.compose, ((request.resolved value).outcome before).2) := by
    simp only [render_outcome, found, settled]
  rw [rendered]
  exact ⟨⟨converted, settled, rfl⟩, counted⟩

/-- A placeholder that resolves to a shallow value converts it and calls it at most once. -/
theorem Placeholder.Fares.once {result : Except RenderFault (List Char)}
    (fares : request.Fares args number before result after)
    (shallow : ∀ value, (Piece.placeholder request).target? args number = some value →
      value.isShallow) :
    (Piece.placeholder request).FaresOnce args number before.count result ∧
      ∀ id, after.count id =
        before.count id + if (Piece.placeholder request).calls args number id then 1 else 0 := by
  -- Where the piece resolves, what becomes of it is what the value is rendered to.
  have rendered : ∀ value, (Piece.placeholder request).target? args number = some value →
      (request.render value).outcome before = (result, after) →
      (Piece.placeholder request).FaresOnce args number before.count result ∧
        ∀ id, after.count id =
          before.count id + if (Piece.placeholder request).calls args number id then 1 else 0 := by
    intro value resolves rendered
    have once := render_shallow request (shallow value resolves) before
    rw [rendered] at once
    simp only [Piece.calls, resolves, Option.any_some]
    exact ⟨.converted resolves once.1, once.2⟩
  cases fares with
  | beyond few =>
    refine ⟨.beyond few, ?_⟩
    simp [Piece.calls, target?_beyond _ few]
  | missing given split leads none =>
    refine ⟨.missing given split leads none, ?_⟩
    simp [Piece.calls, target?_missing given split leads none]
  | unsuitable given leads resolved numeric none =>
    refine rendered _ ((target?_eq_some_iff given).mpr leads) ?_
    exact render_outcome_eq_error_iff.mpr ⟨_, resolved, numeric, none, rfl⟩
  | shown given leads shown => exact rendered _ ((target?_eq_some_iff given).mpr leads) shown

/-- What becomes of a piece is what its value is converted to, for which it is called once. -/
theorem Piece.Fares.once {piece : Piece} {result : Except RenderFault (List Char)}
    (fares : piece.Fares args number before result after)
    (shallow : ∀ value, piece.target? args number = some value → value.isShallow) :
    piece.FaresOnce args number before.count result ∧
      ∀ id, after.count id =
        before.count id + if piece.calls args number id then 1 else 0 := by
  -- Texts call nothing, and a placeholder fares as its value does.
  cases fares with
  | literal => exact ⟨.literal, fun id => rfl⟩
  | percent => exact ⟨.percent, fun id => rfl⟩
  | placeholder fares => exact fares.once shallow

/-- A node adds the call that it makes to those of the nodes before it. -/
theorem countBehind_snoc (args : List Value) (before : CallHistory) (front : List (Node × Nat))
    (node : Node) (number id : Nat) :
    countBehind args before (front ++ [(node, number)]) id =
      countBehind args before front id + if node.piece.calls args number id then 1 else 0 := by
  -- The last node counts by itself.
  simp only [countBehind, List.countP_append, List.countP_singleton, Nat.add_assoc]

/-- Nodes behind others that are shown are visited up to the first that fails.

The calls that have been made are always those of the nodes that have been visited. -/
theorem renderNodes_visits {nodes : List Node} (valid : ∀ node ∈ nodes, node.piece.WellFormed)
    (earlier : List Piece)
    (shallow : ∀ node number, (node, number) ∈ assignments earlier nodes →
      ∀ value, node.piece.target? args number = some value → value.isShallow)
    {front : List (Node × Nat)} {text : List Char} (visited : Visits args before front (.ok text))
    {middle : CallHistory} (counted : middle.count = countBehind args before front) :
    ∃ onward rest result after,
      assignments earlier nodes = onward ++ rest ∧
      Visits args before (front ++ onward) (result.map (text ++ ·)) ∧
      (renderNodes args (1 + earlier.countP Piece.takesNext) nodes).outcome middle =
        (result, after) ∧
      ((∃ more, result = .ok more) → rest = []) ∧
      after.count = countBehind args before (front ++ onward) := by
  induction nodes generalizing earlier front text middle with
  | nil =>
    refine ⟨[], [], .ok [], middle, rfl, ?_, rfl, fun _ => rfl, ?_⟩
    · simpa [Except.map] using visited
    · rw [List.append_nil, counted]
  | cons node nodes ih =>
    rw [assignments_cons] at shallow ⊢
    -- The first node fares with the argument that is assigned to it.
    rcases rendered : (node.piece.render args (1 + earlier.countP Piece.takesNext)).outcome middle
      with ⟨result, next⟩
    have fares := (piece_outcome_iff (valid node List.mem_cons_self) earlier).mp rendered
    obtain ⟨once, added⟩ := fares.once (shallow node _ List.mem_cons_self)
    rw [counted] at once
    -- The calls behind the node are those before it and its own.
    have counted : next.count =
        countBehind args before (front ++ [(node, node.piece.assigned earlier)]) := by
      funext id
      rw [countBehind_snoc, added, counted]
    cases result with
    | error fault =>
      -- The nodes behind it are not visited.
      refine ⟨[(node, node.piece.assigned earlier)], assignments (earlier ++ [node.piece]) nodes,
        .error ⟨node.span, fault⟩, next, rfl, visited.failed once, ?_, nofun, counted⟩
      rw [renderNodes_cons, rendered]
    | ok more =>
      obtain ⟨onward, rest, result, after, split, run, ran, complete, ended⟩ :=
        ih (fun other member => valid other (List.mem_cons_of_mem node member))
          (earlier ++ [node.piece])
          (fun other number member => shallow other number (List.mem_cons_of_mem _ member))
          (visited.shown once) counted
      rw [← advance_behind] at ran
      rw [List.append_assoc] at run ended
      refine ⟨(node, node.piece.assigned earlier) :: onward, rest, result.map (more ++ ·), after,
        by rw [split, List.cons_append], ?_, ?_, ?_, ended⟩
      · cases result with
        | error error => exact run
        | ok texts =>
          simp only [Except.map, List.append_assoc] at run ⊢
          exact run
      · rw [renderNodes_cons, rendered]
        cases result <;> simp only [ran, Except.map]
      · intro shown
        refine complete ?_
        cases result with
        | error error => simp [Except.map] at shown
        | ok texts => exact ⟨texts, rfl⟩

/-- A piece that fails has called what it resolves to only where it found no number. -/
theorem Piece.FaresOnce.calls_iff {piece : Piece} {earlier : Nat → Nat} {fault : RenderFault}
    (fares : piece.FaresOnce args number earlier (.error fault)) (id : Nat) :
    piece.calls args number id ↔
      (∃ conversion kind, fault = .notNumeric conversion kind) ∧
        ∃ early steady, piece.target? args number = some (.deferred id early steady) := by
  cases fares with
  | beyond few => simp [Piece.calls, target?_beyond _ few]
  | missing given split leads ends => simp [Piece.calls, target?_missing given split leads ends]
  | @converted request value result resolves converts =>
    -- A conversion only fails where it finds no number.
    obtain ⟨converted, settled, failed⟩ := converts
    have error : converted = .error fault := by
      cases converted with
      | error other => simpa [Except.map] using failed
      | ok fragment => simp [Except.map] at failed
    rw [error] at settled
    obtain ⟨numeric, _, rfl, _⟩ := convert_outcome_eq_error_iff.mp (settled .empty)
    -- A conversion that needs a number shows what a deferred value yields.
    have uses : request.usesResult := by
      rw [usesResult_eq]
      cases asked : request.conversion <;> simp [asked, Conversion.isNumeric,
        Conversion.isInteger, Conversion.callsDeferred] at numeric ⊢
    simp only [Piece.calls, uses, resolves, Bool.true_and, Option.any_some, Option.some.injEq]
    cases value <;> simp [Value.hasIdentity]

/-- Of nodes that are visited up to a failing one, the last is the one that fails. -/
theorem Visits.failing {visited : List (Node × Nat)} {error : RenderError}
    (run : Visits args before visited (.error error)) :
    ∃ front node number, visited = front ++ [(node, number)] ∧ node.span = error.span ∧
      node.piece.FaresOnce args number (countBehind args before front) (.error error.fault) := by
  -- Only the last step of a run can fail.
  cases run with
  | failed _ fares => exact ⟨_, _, _, rfl, rfl, fares⟩

/-- Each placeholder calls the deferred value that it resolves to once, and converts its result.

The placeholders up to the first failing one are visited, and each deferred value is called as often
as they show what it yields. The failing one calls nothing unless it resolves to a value that is no
number. -/
theorem render_calls_once {source : String} {template : Template}
    (parsed : Template.parse source = .ok template) (args : List Value)
    (shallow : ∀ node number, (node, number) ∈ assignments [] template.nodes →
      ∀ value, node.piece.target? args number = some value → value.isShallow)
    (before : CallHistory) :
    ∃ visited unvisited shown after,
      assignments [] template.nodes = visited ++ unvisited ∧
      Visits args before visited shown ∧
      (template.render args).outcome before = (shown.map String.ofList, after) ∧
      ((∃ text, shown = .ok text) → unvisited = []) ∧
      (∀ id, after.count id = countBehind args before visited id) ∧
      ∀ error, shown = .error error →
        ∃ front node number, visited = front ++ [(node, number)] ∧ node.span = error.span ∧
          ∀ id, node.piece.calls args number id ↔
            (∃ conversion kind, error.fault = .notNumeric conversion kind) ∧
              ∃ early steady, node.piece.target? args number = some (.deferred id early steady) := by
  obtain ⟨parts, decomposes, rfl⟩ := parse_eq_ok_iff.mp parsed
  have valid : ∀ node ∈ layOut 0 parts, node.piece.WellFormed := by
    intro node member
    refine decomposes.wellFormed.each node.piece ?_
    rw [← map_piece_layOut 0]
    exact List.mem_map_of_mem member
  -- Before the first node no call has been added.
  have started : before.count = countBehind args before [] := by
    funext id
    rfl
  obtain ⟨visited, unvisited, shown, after, split, run, ran, complete, counted⟩ :=
    renderNodes_visits valid [] shallow .start started
  have same : shown.map ([] ++ ·) = shown := by cases shown <;> rfl
  rw [List.nil_append] at run counted
  rw [same] at run
  refine ⟨visited, unvisited, shown, after, split, run, ?_, complete, congrFun counted, ?_⟩
  · simp only [Template.render, outcome_bind, outcome_pure]
    rw [List.countP_nil, Nat.add_zero] at ran
    rw [ran]
  -- The last node that is visited is the one that fails, and its fault tells whether it called.
  · rintro error rfl
    obtain ⟨front, node, number, last, place, fares⟩ := run.failing
    exact ⟨front, node, number, last, place, fares.calls_iff⟩

/-- The first decimal placeholder shows the first result, the kind is told without a call, and the
second decimal placeholder shows the second result, or fails at it. -/
theorem render_calls_once_second_result :
    ∃ template, Template.parse "%1$d%1$T%1$d" = .ok template ∧
      (∃ visited after,
        assignments [] template.nodes = visited ∧
        (template.render [.deferred 7 [.int 5] (.int 6)]).outcome .empty =
          (.ok "5function6", after) ∧
        after.count 7 = 2 ∧
        countBehind [.deferred 7 [.int 5] (.int 6)] .empty visited 7 = 2) ∧
      ∃ args, args = [.deferred 7 [.int 5] .null] ∧
      ∃ visited unvisited shown after,
        assignments [] template.nodes = visited ++ unvisited ∧
        Visits args .empty visited shown ∧
        (template.render args).outcome .empty = (shown.map String.ofList, after) ∧
        shown = .error ⟨⟨8, 12⟩, .notNumeric .decimal .null⟩ ∧
        after.count 7 = 2 ∧ countBehind args .empty visited 7 = 2 := by
  let decimal := Placeholder.plain (.number 1) .decimal
  let kind := Placeholder.plain (.number 1) .kind
  let pieces : List Piece := [.placeholder decimal, .placeholder kind, .placeholder decimal]
  have written : printed pieces = "%1$d%1$T%1$d" := by decide
  have valid : WellFormed pieces := by
    have numbered : Selector.WellFormed (.number 1) := ⟨by decide, by decide⟩
    have plain : ∀ conversion, (Placeholder.plain (.number 1) conversion).WellFormed :=
      fun conversion => Placeholder.plain_wellFormed _ conversion numbered
    refine ⟨?_, ?_, ?_⟩
    · simp [pieces, Piece.WellFormed, decimal, kind, plain]
    · simp [pieces, Piece.Apart, Piece.isLiteral]
    · simp [pieces, Unmixed, Selector.IsPath, decimal, kind, Placeholder.plain]
  have parsed := valid.parse_printed
  rw [written] at parsed
  have kept : (layOut 0 (pieces.map Piece.part)).map Node.piece = pieces := map_piece_layOut 0 _
  have assigned : assignments [] (layOut 0 (pieces.map Piece.part)) =
      (layOut 0 (pieces.map Piece.part)).map fun node => (node, 1) := rfl
  -- All three placeholders resolve to the one argument, whose results hold no deferred value.
  have shallow {last : Value} (flat : (Value.deferred 7 [.int 5] last).isShallow)
      (node : Node) (number : Nat)
      (member : (node, number) ∈ assignments [] (layOut 0 (pieces.map Piece.part))) (value : Value)
      (resolves : node.piece.target? [.deferred 7 [.int 5] last] number = some value) :
      value.isShallow := by
    rw [assigned] at member
    obtain ⟨other, laid, same⟩ := List.mem_map.mp member
    obtain ⟨rfl, rfl⟩ := Prod.mk.inj same
    have inside : other.piece ∈ pieces := kept ▸ List.mem_map_of_mem laid
    simp only [pieces, List.mem_cons, List.not_mem_nil, or_false] at inside
    rcases inside with piece | piece | piece <;> rw [piece] at resolves <;> cases resolves <;>
      exact flat
  refine ⟨_, parsed, ?_, _, rfl, ?_⟩
  · have evaluated : (Template.render ⟨"%1$d%1$T%1$d", layOut 0 (pieces.map Piece.part)⟩
        [.deferred 7 [.int 5] (.int 6)]).outcome .empty = (.ok "5function6", ⟨[7, 7]⟩) := by
      decide +kernel
    obtain ⟨visited, unvisited, shown, after, split, -, ran, complete, counted, -⟩ :=
      render_calls_once parsed [.deferred 7 [.int 5] (.int 6)] (shallow rfl) .empty
    rw [evaluated] at ran
    obtain ⟨succeeded, rfl⟩ := Prod.mk.inj ran
    have all : unvisited = [] := by
      cases shown with
      | error error => simp [Except.map] at succeeded
      | ok text => exact complete ⟨text, rfl⟩
    rw [all, List.append_nil] at split
    exact ⟨visited, _, split, evaluated, rfl, (counted 7).symm⟩
  · have evaluated : (Template.render ⟨"%1$d%1$T%1$d", layOut 0 (pieces.map Piece.part)⟩
        [.deferred 7 [.int 5] .null]).outcome .empty =
          (.error ⟨⟨8, 12⟩, .notNumeric .decimal .null⟩, ⟨[7, 7]⟩) := rfl
    obtain ⟨visited, unvisited, shown, after, split, run, ran, -, counted, -⟩ :=
      render_calls_once parsed [.deferred 7 [.int 5] .null] (shallow rfl) .empty
    rw [ran] at evaluated
    obtain ⟨failed, rfl⟩ := Prod.mk.inj evaluated
    have failed : shown = .error ⟨⟨8, 12⟩, .notNumeric .decimal .null⟩ := by
      cases shown with
      | error error => simpa [Except.map] using failed
      | ok text => simp [Except.map] at failed
    exact ⟨visited, unvisited, shown, _, split, run, ran, failed, rfl, (counted 7).symm⟩

end TextTemplate
