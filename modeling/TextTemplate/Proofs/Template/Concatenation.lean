import TextTemplate.Proofs.Template.Coalesce
import TextTemplate.Proofs.Template.Printer

/-! A template behind another is read and rendered as on its own, from where the other ends. -/

namespace TextTemplate

/-- A stretch that lies further behind. -/
def Span.shift (distance : Nat) (span : Span) : Span :=
  ⟨span.start + distance, span.stop + distance⟩

/-- A node that lies further behind. -/
def Node.shift (distance : Nat) (node : Node) : Node :=
  ⟨node.span.shift distance, node.piece⟩

/-- A fault among arguments of which more stand in front. -/
def RenderFault.shift (count : Nat) : RenderFault → RenderFault
  | .noArgument number available => .noArgument (number + count) (available + count)
  | .noProperty segment => .noProperty segment
  | .notNumeric conversion found => .notNumeric conversion found

/-- An error that lies further behind, among arguments of which more stand in front. -/
def RenderError.shift (distance count : Nat) (error : RenderError) : RenderError :=
  ⟨error.span.shift distance, error.fault.shift count⟩

/-- An error of either stage that lies further behind. -/
def FormatError.shift (distance count : Nat) : FormatError → FormatError
  | .parse error => .parse error
  | .render error => .render (error.shift distance count)

/-- Parts that lie further behind are laid out further behind. -/
theorem layOut_shift (distance position : Nat) (parts : List Part) :
    layOut (position + distance) parts = (layOut position parts).map (Node.shift distance) := by
  induction parts generalizing position with
  | nil => rfl
  | cons part parts ih =>
    -- Every part begins that much further behind.
    rw [layOut, layOut, List.map_cons, ← ih, Nat.add_right_comm]
    rfl

/-- The placeholders of nodes that lie further behind are the same, further behind. -/
theorem placeholders_shift (distance : Nat) (nodes : List Node) :
    (nodes.map (Node.shift distance)).filterMap Node.placeholder? =
      (nodes.filterMap Node.placeholder?).map fun (span, request) =>
        (span.shift distance, request) := by
  rw [List.filterMap_map, List.map_filterMap]
  -- Shifting leaves the pieces as they are.
  refine List.filterMap_congr fun node _ => ?_
  obtain ⟨span, piece⟩ := node
  cases piece <;> rfl

/-- Nodes that lie further behind conflict where they do, further behind. -/
theorem firstConflict_shift (addressing : Option Addressing) (distance : Nat) (nodes : List Node) :
    firstConflict addressing (nodes.map (Node.shift distance)) =
      (firstConflict addressing nodes).map (Span.shift distance) := by
  induction nodes generalizing addressing with
  | nil => rfl
  | cons node nodes ih =>
    -- Which node conflicts depends on the pieces, and where on the stretch.
    simp only [List.map_cons, firstConflict, Node.shift, ih]
    split <;> rfl

/-- The nodes in front conflict first, and then those behind with what they leave allowed. -/
theorem firstConflict_append (addressing : Option Addressing) (front back : List Node) :
    firstConflict addressing (front ++ back) =
      (firstConflict addressing front).or
        (firstConflict (addressingBehind addressing (front.map Node.piece)) back) := by
  induction front generalizing addressing with
  | nil => rfl
  | cons node front ih =>
    -- The first node conflicts, or changes what is allowed for both rows.
    simp only [List.cons_append, firstConflict, List.map_cons, addressingBehind]
    split
    · rfl
    · exact ih _

/-- Pieces leave allowed what they found, or the addressing of one of them. -/
theorem addressingBehind_cases (addressing : Option Addressing) (pieces : List Piece) :
    (∀ piece ∈ pieces, piece.addressing? = none) ∧
        addressingBehind addressing pieces = addressing ∨
      ∃ piece ∈ pieces, ∃ own, piece.addressing? = some own ∧
        addressingBehind addressing pieces = some own := by
  induction pieces generalizing addressing with
  | nil => exact .inl ⟨by simp, rfl⟩
  | cons piece pieces ih =>
    rw [addressingBehind]
    -- The later pieces decide, and where they are silent, the first one does.
    rcases ih (piece.addressing?.or addressing) with
      ⟨silent, same⟩ | ⟨other, member, own, found, left⟩
    · cases found : piece.addressing? with
      | none =>
        refine .inl ⟨by simpa [found] using silent, ?_⟩
        rw [found] at same
        exact same
      | some own =>
        refine .inr ⟨piece, by simp, own, found, ?_⟩
        rw [found] at same
        exact same
    · exact .inr ⟨other, by simp [member], own, found, left⟩

/-- The first placeholder conflicts when it addresses arguments otherwise. -/
theorem firstConflict_head {addressing : Addressing} {nodes : List Node} {span : Span}
    {request : Placeholder} {rest : List (Span × Placeholder)}
    (first : nodes.filterMap Node.placeholder? = (span, request) :: rest)
    (other : request.selector.addressing ≠ addressing) :
    firstConflict (some addressing) nodes = some span := by
  induction nodes with
  | nil => simp at first
  | cons node nodes ih =>
    obtain ⟨place, piece⟩ := node
    -- Only placeholders conflict, so the first of them decides.
    cases piece with
    | literal text => exact ih first
    | percent => exact ih first
    | placeholder found =>
      simp only [List.filterMap_cons, Node.placeholder?, List.cons.injEq, Prod.mk.injEq] at first
      obtain ⟨⟨rfl, rfl⟩, _⟩ := first
      simp [firstConflict, Piece.conflicts, Piece.addressing?, other.symm]

/-- Nodes are rendered one after the other, those behind with the arguments that are left. -/
theorem renderNodes_append (args : List Value) (next : Nat) (front back : List Node)
    (before : CallHistory) :
    (renderNodes args next (front ++ back)).outcome before =
      match (renderNodes args next front).outcome before with
      | (.error error, after) => (.error error, after)
      | (.ok text, middle) =>
        let left := next + (front.map Node.piece).countP Piece.takesNext
        match (renderNodes args left back).outcome middle with
        | (.error error, after) => (.error error, after)
        | (.ok texts, after) => (.ok (text ++ texts), after) := by
  induction front generalizing next before with
  | nil =>
    simp only [List.nil_append, renderNodes, outcome_pure, List.map_nil, List.countP_nil,
      Nat.add_zero]
    obtain ⟨result, after⟩ := (renderNodes args next back).outcome before
    cases result <;> rfl
  | cons node front ih =>
    -- Every node moves the next argument in line by what it takes.
    have left : node.piece.advance next + (front.map Node.piece).countP Piece.takesNext =
        next + ((node :: front).map Node.piece).countP Piece.takesNext := by
      rw [advance_eq, List.map_cons, List.countP_cons]
      omega
    rw [List.cons_append, renderNodes_cons, renderNodes_cons]
    -- A fault in front ends both sides alike.
    obtain ⟨shown, middle⟩ := (node.piece.render args next).outcome before
    cases shown with
    | error fault => rfl
    | ok text =>
      simp only [ih, left]
      obtain ⟨result, last⟩ := (renderNodes args (node.piece.advance next) front).outcome middle
      cases result with
      | error error => rfl
      | ok texts =>
        simp only
        obtain ⟨result, after⟩ := (renderNodes args _ back).outcome last
        cases result with
        | error error => rfl
        | ok more => simp

/-- A piece that is shown and takes the next argument in line finds it. -/
theorem takesNext_le {args : List Value} {next : Nat} {piece : Piece} (takes : piece.takesNext)
    {before after : CallHistory} {text : List Char}
    (shown : (piece.render args next).outcome before = (.ok text, after)) :
    next ≤ args.length := by
  cases piece with
  | literal text => simp [Piece.takesNext] at takes
  | percent => simp [Piece.takesNext] at takes
  | placeholder request =>
    -- Beyond the last argument, nothing could be picked.
    by_contra beyond
    have none : argument args next = .error (.noArgument next args.length) := by
      cases next with
      | zero => rfl
      | succ index => simp [argument, List.getElem?_eq_none (by omega : args.length ≤ index)]
    have numbered := numbered_of_takesNext takes next
    simp only [Piece.render, pick_eq, numbered, none, Except.bind, outcome_pure] at shown
    cases shown

/-- Nodes that are all shown take no more arguments than there are. -/
theorem countP_takesNext_le {args : List Value} {next : Nat} {nodes : List Node}
    (within : next ≤ args.length + 1) {before after : CallHistory} {text : List Char}
    (shown : (renderNodes args next nodes).outcome before = (.ok text, after)) :
    next + (nodes.map Node.piece).countP Piece.takesNext ≤ args.length + 1 := by
  induction nodes generalizing next before after text with
  | nil => exact within
  | cons node nodes ih =>
    rw [renderNodes_cons] at shown
    split at shown
    · cases shown
    · rename_i first
      split at shown
      · cases shown
      · rename_i rest
        -- A node that takes the next argument has found it, so one more stays within the count.
        have advanced : node.piece.advance next ≤ args.length + 1 := by
          rw [advance_eq]
          split
          · rename_i takes
            exact Nat.succ_le_succ (takesNext_le takes first)
          · exact within
        have bounded := ih advanced rest
        rw [advance_eq] at bounded
        rw [List.map_cons, List.countP_cons]
        omega

/-- An argument in line behind others is one in line among those that are left. -/
theorem argument_drop {args : List Value} {count : Nat} (enough : count ≤ args.length)
    {next : Nat} (positive : 1 ≤ next) :
    argument args (next + count) =
      (argument (args.drop count) next).mapError (RenderFault.shift count) := by
  -- Both count to the same argument, or to none.
  have shifted : args[next + count - 1]? = (args.drop count)[next - 1]? := by
    rw [List.getElem?_drop]
    congr 1
    omega
  rw [argument_eq positive, argument_eq (by omega), shifted]
  cases (args.drop count)[next - 1]? with
  | some value => rfl
  | none =>
    simp only [Except.mapError, RenderFault.shift, List.length_drop, Nat.sub_add_cancel enough]

/-- A placeholder without a number of its own is rendered behind others as without them. -/
theorem piece_render_drop {args : List Value} {count : Nat} (enough : count ≤ args.length)
    {next : Nat} (positive : 1 ≤ next) {piece : Piece}
    (unnumbered : ∀ request, piece = .placeholder request → request.selector.takesNext)
    (before : CallHistory) :
    (piece.render args (next + count)).outcome before =
      match (piece.render (args.drop count) next).outcome before with
      | (.error fault, after) => (.error (fault.shift count), after)
      | (.ok text, after) => (.ok text, after) := by
  cases piece with
  | literal text => rfl
  | percent => rfl
  | placeholder request =>
    -- The placeholder takes the argument in line, which is counted from further in front.
    have numbered := numbered_of_takesNext (unnumbered request rfl)
    simp only [Piece.render, pick_eq, numbered, argument_drop enough positive]
    -- The argument is the same, and so is all that is done with it.
    cases argument (args.drop count) next with
    | error fault => rfl
    | ok root =>
      simp only [Except.mapError, Except.bind]
      cases followed : root.follow request.selector.steps with
      | error fault =>
        -- Only a missing argument counts the arguments.
        obtain ⟨_, segment, _, _, _, _, _, rfl⟩ := follow_eq_error_iff.mp followed
        rfl
      | ok value =>
        simp only
        rcases rendered : (request.render value).outcome before with ⟨result, after⟩
        cases result with
        | ok text => rfl
        | error fault =>
          -- A missing number does not count the arguments either.
          obtain ⟨_, _, _, _, rfl⟩ := render_outcome_eq_error_iff.mp rendered
          rfl

/-- Nodes without numbers of their own are rendered behind others as without them. -/
theorem renderNodes_drop {args : List Value} {count : Nat} (enough : count ≤ args.length)
    {next : Nat} (positive : 1 ≤ next) {nodes : List Node}
    (unnumbered : ∀ node ∈ nodes, ∀ request, node.piece = .placeholder request →
      request.selector.takesNext) (distance : Nat) (before : CallHistory) :
    (renderNodes args (next + count) (nodes.map (Node.shift distance))).outcome before =
      match (renderNodes (args.drop count) next nodes).outcome before with
      | (.error error, after) => (.error (error.shift distance count), after)
      | (.ok text, after) => (.ok text, after) := by
  induction nodes generalizing next before with
  | nil => rfl
  | cons node nodes ih =>
    -- The first node is rendered alike, and moves both cursors alike.
    have first := piece_render_drop enough positive (unnumbered node (by simp)) before
    have onward : node.piece.advance (next + count) = node.piece.advance next + count := by
      rw [advance_eq, advance_eq, Nat.add_right_comm]
    have forward : 1 ≤ node.piece.advance next := by
      rw [advance_eq]
      omega
    rw [List.map_cons, renderNodes_cons, renderNodes_cons]
    simp only [Node.shift, first, onward]
    obtain ⟨shown, middle⟩ := (node.piece.render (args.drop count) next).outcome before
    cases shown with
    | error fault => rfl
    | ok text =>
      have rest := ih forward (fun other member => unnumbered other (by simp [member])) middle
      simp only [rest]
      obtain ⟨result, after⟩ :=
        (renderNodes (args.drop count) (node.piece.advance next) nodes).outcome middle
      cases result <;> rfl

/-- Nodes without numbers are rendered behind others with the arguments that those leave. -/
theorem renderNodes_join (args : List Value) (front : List Node) {back : List Node}
    (unnumbered : ∀ node ∈ back, ∀ request, node.piece = .placeholder request →
      request.selector.takesNext) (distance : Nat) (before : CallHistory) :
    (renderNodes args 1 (front ++ back.map (Node.shift distance))).outcome before =
      let count := (front.map Node.piece).countP Piece.takesNext
      match (renderNodes args 1 front).outcome before with
      | (.error error, after) => (.error error, after)
      | (.ok text, middle) =>
        match (renderNodes (args.drop count) 1 back).outcome middle with
        | (.error error, after) => (.error (error.shift distance count), after)
        | (.ok texts, after) => (.ok (text ++ texts), after) := by
  rw [renderNodes_append]
  rcases shown : (renderNodes args 1 front).outcome before with ⟨result, middle⟩
  cases result with
  | error error => rfl
  | ok text =>
    -- What is shown in front has found its arguments, so that many can be dropped.
    have enough : (front.map Node.piece).countP Piece.takesNext ≤ args.length := by
      have taken := countP_takesNext_le (Nat.le_add_left 1 args.length) shown
      omega
    simp only [renderNodes_drop enough (Nat.le_refl 1) unnumbered]
    obtain ⟨result, after⟩ := (renderNodes (args.drop _) 1 back).outcome middle
    cases result <;> rfl

/-- A node addresses arguments as its placeholder does. -/
theorem addressing?_eq (node : Node) :
    node.piece.addressing? = node.placeholder?.map (·.2.selector.addressing) := by
  -- Only a placeholder addresses an argument.
  obtain ⟨span, piece⟩ := node
  cases piece with
  | literal text => rfl
  | percent => rfl
  | placeholder request => rfl

/-- Nodes share a way of addressing arguments when their placeholders do. -/
theorem addressing_shared_iff {nodes : List Node} {addressing : Addressing} :
    (∀ node ∈ nodes, ∀ own ∈ node.piece.addressing?, own = addressing) ↔
      ∀ placed ∈ nodes.filterMap Node.placeholder?, placed.2.selector.addressing = addressing := by
  -- Nodes without a placeholder address nothing.
  constructor
  · intro shared placed member
    obtain ⟨node, inside, found⟩ := List.mem_filterMap.mp member
    exact shared node inside _ (by simp [addressing?_eq, found])
  · intro shared node inside own found
    rw [addressing?_eq, Option.mem_def, Option.map_eq_some_iff] at found
    obtain ⟨placed, found, rfl⟩ := found
    exact shared placed (List.mem_filterMap.mpr ⟨node, inside, found⟩)

/-- The placeholders that take the next argument in line are pieces that do. -/
theorem countP_placeholders (nodes : List Node) :
    (nodes.filterMap Node.placeholder?).countP (·.2.selector.takesNext) =
      (nodes.map Node.piece).countP Piece.takesNext := by
  rw [List.countP_filterMap, List.countP_map]
  -- Only a placeholder takes an argument in line.
  refine List.countP_congr fun node _ => ?_
  obtain ⟨span, piece⟩ := node
  cases piece with
  | literal text => rfl
  | percent => rfl
  | placeholder request => rfl

/-- Nodes conflict unless their placeholders share one way of addressing arguments. -/
theorem firstConflict_iff_placeholders {nodes : List Node} :
    firstConflict none nodes = none ↔
      ∃ addressing, ∀ placed ∈ nodes.filterMap Node.placeholder?,
        placed.2.selector.addressing = addressing := by
  simp only [firstConflict_none_eq_none_iff, addressing_shared_iff]

/-- Two rows of nodes do not conflict when the placeholders of both address arguments alike. -/
theorem firstConflict_append_none {front back : List Node}
    (inFront : firstConflict none front = none) (behind : firstConflict none back = none)
    (alike : ∀ left ∈ front.filterMap Node.placeholder?,
      ∀ right ∈ back.filterMap Node.placeholder?,
        left.2.selector.addressing = right.2.selector.addressing) :
    firstConflict none (front ++ back) = none := by
  rw [firstConflict_iff_placeholders] at inFront behind ⊢
  obtain ⟨own, shared⟩ := inFront
  obtain ⟨other, sharedToo⟩ := behind
  rw [List.filterMap_append]
  -- Without a placeholder in front, only those behind matter.
  cases placed : front.filterMap Node.placeholder? with
  | nil => exact ⟨other, sharedToo⟩
  | cons first rest =>
    rw [placed] at shared alike
    refine ⟨own, fun next member => ?_⟩
    rcases List.mem_append.mp member with member | member
    · exact shared next member
    · rw [← alike first (by simp) next member, shared first (by simp)]

/-- The first placeholder behind others conflicts when they address arguments otherwise. -/
theorem firstConflict_append_some {front back : List Node}
    (inFront : firstConflict none front = none) (behind : firstConflict none back = none)
    {left right : Span × Placeholder} (member : left ∈ front.filterMap Node.placeholder?)
    (memberToo : right ∈ back.filterMap Node.placeholder?)
    (differ : left.2.selector.addressing ≠ right.2.selector.addressing) :
    ∃ span request rest, back.filterMap Node.placeholder? = (span, request) :: rest ∧
      firstConflict none (front ++ back) = some span := by
  -- Each of the two rows has one way of addressing.
  obtain ⟨own, shared⟩ := firstConflict_iff_placeholders.mp inFront
  obtain ⟨other, sharedToo⟩ := firstConflict_iff_placeholders.mp behind
  obtain ⟨⟨span, request⟩, rest, first⟩ := List.exists_cons_of_ne_nil (List.ne_nil_of_mem memberToo)
  -- The first placeholder behind addresses arguments like the one that differs.
  have otherwise : request.selector.addressing ≠ own := by
    rw [← shared left member, sharedToo (span, request) (by simp [first]),
      ← sharedToo right memberToo]
    exact differ.symm
  -- The nodes in front leave their own way of addressing allowed.
  have allowed : addressingBehind none (front.map Node.piece) = some own := by
    rcases addressingBehind_cases none (front.map Node.piece) with
      ⟨silent, _⟩ | ⟨piece, inside, found, addresses, left⟩
    · obtain ⟨node, inside, placed⟩ := List.mem_filterMap.mp member
      have none := silent node.piece (List.mem_map_of_mem inside)
      rw [addressing?_eq, placed] at none
      cases none
    · obtain ⟨node, present, rfl⟩ := List.mem_map.mp inside
      rw [left, addressing_shared_iff.mpr shared node present found addresses]
  refine ⟨span, request, rest, first, ?_⟩
  rw [firstConflict_append, inFront, allowed, Option.none_or]
  exact firstConflict_head first otherwise

/-- Two texts that are templates are read together as the nodes of both, with literals merged. -/
theorem exists_parse_append {a b : String} {first second : Template}
    (parsed : Template.parse a = .ok first) (parsedToo : Template.parse b = .ok second) :
    firstConflict none first.nodes = none ∧ firstConflict none second.nodes = none ∧
    ∃ whole : List Node,
      Template.parse (a ++ b) =
        (match firstConflict none
            (first.nodes ++ second.nodes.map (Node.shift a.utf8ByteSize)) with
          | some span => .error (.mixed span)
          | none => .ok ⟨a ++ b, whole⟩) ∧
      whole.filterMap Node.placeholder? =
        (first.nodes ++ second.nodes.map (Node.shift a.utf8ByteSize)).filterMap
          Node.placeholder? ∧
      ∀ args next before, (renderNodes args next whole).outcome before =
        (renderNodes args next
          (first.nodes ++ second.nodes.map (Node.shift a.utf8ByteSize))).outcome before := by
  obtain ⟨front, decomposes, rfl⟩ := parse_eq_ok_iff.mp parsed
  obtain ⟨back, decomposesToo, rfl⟩ := parse_eq_ok_iff.mp parsedToo
  -- Parts of either template can be read, also behind each other.
  have forms : ∀ part ∈ front ++ back, part.Follows SpellsPlaceholder := by
    intro part member
    rcases List.mem_append.mp member with member | member
    · exact decomposes.forms part member
    · exact decomposesToo.forms part member
  have text : String.ofList (written (front ++ back)) = a ++ b := by
    rw [written_append, decomposes.whole, decomposesToo.whole, String.ofList_append,
      String.ofList_toList, String.ofList_toList]
  -- The parts of both make up the whole text, and the second row is laid out further behind.
  have joint : layOut 0 (front ++ back) =
      layOut 0 front ++ (layOut 0 back).map (Node.shift a.utf8ByteSize) := by
    rw [layOut_append, decomposes.whole, byteLength_toList, layOut_shift]
  have read := parse_written forms
  have merges := merges_coalesce forms
  rw [text, joint] at read
  refine ⟨?_, ?_, layOut 0 (coalesce (front ++ back)), read, ?_, ?_⟩
  · rw [firstConflict_eq_none_iff, map_piece_layOut]
    exact decomposes.unmixed
  · rw [firstConflict_eq_none_iff, map_piece_layOut]
    exact decomposesToo.unmixed
  · rw [merges.placeholders_eq, joint]
  · intro args next before
    rw [merges.renderNodes_eq, joint]

/-- Placeholders without a number of their own take the next argument in line. -/
theorem takesNext_of_unnumbered {nodes : List Node}
    (unnumbered : ∀ placed ∈ nodes.filterMap Node.placeholder?,
      ∀ position, placed.2.selector ≠ .number position) :
    ∀ node ∈ nodes, ∀ request, node.piece = .placeholder request →
      request.selector.takesNext := by
  intro node member request piece
  have placed : node.placeholder? = some (node.span, request) := by
    rw [Node.placeholder?, piece]
  have other := unnumbered _ (List.mem_filterMap.mpr ⟨node, member, placed⟩)
  -- Only an explicit number takes no argument in line.
  cases selected : request.selector with
  | next => rfl
  | number position => exact absurd selected (other position)
  | path segments => rfl

/-- Templates compose by concatenation.

Reading both together fails at the first placeholder of the second one if one has a placeholder
with a path and the other one without, and otherwise yields the placeholders of both. A second
template without explicit numbers is then rendered with the arguments that the first one leaves,
from the calls it leaves. -/
theorem parse_format_append {a b : String} {first second : Template}
    (parsed : Template.parse a = .ok first) (parsedToo : Template.parse b = .ok second) :
    ((∃ left ∈ first.placeholders, ∃ right ∈ second.placeholders,
        ¬(left.2.selector.IsPath ↔ right.2.selector.IsPath)) →
      ∃ span request rest, second.placeholders = (span, request) :: rest ∧
        Template.parse (a ++ b) = .error (.mixed (span.shift a.utf8ByteSize))) ∧
    ((∀ left ∈ first.placeholders, ∀ right ∈ second.placeholders,
        (left.2.selector.IsPath ↔ right.2.selector.IsPath)) →
      ∃ whole, Template.parse (a ++ b) = .ok whole ∧
        whole.placeholders = first.placeholders ++ second.placeholders.map
          (fun (span, request) => (span.shift a.utf8ByteSize, request)) ∧
        ((∀ right ∈ second.placeholders, ∀ position, right.2.selector ≠ .number position) →
          ∀ args before,
            let count := first.placeholders.countP (·.2.selector.takesNext)
            (format (a ++ b) args).outcome before =
              match (format a args).outcome before with
              | (.error error, after) => (.error error, after)
              | (.ok text, middle) =>
                match (format b (args.drop count)).outcome middle with
                | (.error error, after) => (.error (error.shift a.utf8ByteSize count), after)
                | (.ok texts, after) => (.ok (text ++ texts), after))) := by
  obtain ⟨inFront, behind, whole, read, placed, rendered⟩ := exists_parse_append parsed parsedToo
  -- The second template conflicts with nothing by itself, wherever it stands.
  have alone : firstConflict none (second.nodes.map (Node.shift a.utf8ByteSize)) = none := by
    rw [firstConflict_shift, behind, Option.map_none]
  simp only [placeholders_eq, ← addressing_eq_iff]
  refine ⟨?_, fun alike => ?_⟩
  · intro mixed
    obtain ⟨left, member, right, memberToo, differ⟩ := mixed
    -- The placeholder that differs is among those behind, so the first of them conflicts.
    have shifted : (right.1.shift a.utf8ByteSize, right.2) ∈
        (second.nodes.map (Node.shift a.utf8ByteSize)).filterMap Node.placeholder? := by
      rw [placeholders_shift]
      exact List.mem_map.mpr ⟨right, memberToo, rfl⟩
    obtain ⟨span, request, rest, head, conflict⟩ :=
      firstConflict_append_some inFront alone member shifted differ
    rw [placeholders_shift] at head
    obtain ⟨⟨span, request⟩, rest, head, place, rfl⟩ := List.map_eq_cons_iff.mp head
    cases place
    refine ⟨span, request, rest, head, ?_⟩
    rw [read, conflict]
  · -- Where all placeholders address arguments alike, nothing conflicts.
    have together : firstConflict none
        (first.nodes ++ second.nodes.map (Node.shift a.utf8ByteSize)) = none := by
      refine firstConflict_append_none inFront alone fun left member right memberToo => ?_
      rw [placeholders_shift] at memberToo
      obtain ⟨original, present, rfl⟩ := List.mem_map.mp memberToo
      exact alike left member original present
    rw [together] at read
    refine ⟨_, read, ?_, fun unnumbered args before => ?_⟩
    -- Merged literals leave the placeholders as they are.
    · rw [placed, List.filterMap_append, placeholders_shift]
    · simp only [format_outcome read, format_outcome parsed, format_outcome parsedToo, rendered,
        renderNodes_join args first.nodes (takesNext_of_unnumbered unnumbered),
        countP_placeholders]
      -- The characters of both templates are made into texts, and errors keep their stage.
      obtain ⟨result, middle⟩ := (renderNodes args 1 first.nodes).outcome before
      cases result with
      | error error => rfl
      | ok text =>
        simp only
        obtain ⟨result, after⟩ := (renderNodes (args.drop _) 1 second.nodes).outcome middle
        cases result with
        | error error => rfl
        | ok texts => simp

/-- Literals meet at the seam, where one argument is left for the second template. If it is missing,
it is counted and placed in the whole. -/
theorem parse_format_append_seam :
    Template.parse ("%sé" ++ "%(k)s") = .error (.mixed ⟨4, 9⟩) ∧
      (format ("%sé" ++ "é%d") [.text "x", .int 7]).outcome .empty = (.ok "xéé7", .empty) ∧
      (format ("%sé" ++ "é%d") [.text "x"]).outcome .empty =
        (.error (.render ⟨⟨6, 8⟩, .noArgument 2 1⟩), .empty) := by
  let text := Placeholder.plain .next .text
  let key := Placeholder.plain (.path [.field "k"]) .text
  let decimal := Placeholder.plain .next .decimal
  have textValid : text.WellFormed := Placeholder.plain_wellFormed .next _ trivial
  have keyValid : key.WellFormed := by
    refine Placeholder.plain_wellFormed (.path _) _ ⟨⟨"k", [], rfl⟩, fun segment member => ?_⟩
    rw [List.mem_singleton.mp member]
    show IsName ['k']
    refine ⟨⟨'k', rfl, .inl rfl⟩, fun c inside => ?_⟩
    rw [List.mem_singleton.mp inside]
    exact .inl rfl
  have decimalValid : decimal.WellFormed := Placeholder.plain_wellFormed .next _ trivial
  -- Each of the three templates is the printed text of its pieces.
  have front : WellFormed [.placeholder text, .literal "é"] :=
    ⟨by simp [Piece.WellFormed, textValid], by simp [Piece.Apart, Piece.isLiteral],
      by simp [Unmixed, Selector.IsPath, text, Placeholder.plain]⟩
  have named : WellFormed [.placeholder key] :=
    ⟨by simp [Piece.WellFormed, keyValid], by simp,
      by simp [Unmixed, Selector.IsPath, key, Placeholder.plain]⟩
  have back : WellFormed [.literal "é", .placeholder decimal] :=
    ⟨by simp [Piece.WellFormed, decimalValid], by simp [Piece.Apart, Piece.isLiteral],
      by simp [Unmixed, Selector.IsPath, decimal, Placeholder.plain]⟩
  have parsed := front.parse_printed
  rw [show printed _ = "%sé" by decide] at parsed
  have parsedNamed := named.parse_printed
  rw [show printed _ = "%(k)s" by decide] at parsedNamed
  have parsedBack := back.parse_printed
  rw [show printed _ = "é%d" by decide] at parsedBack
  constructor
  · obtain ⟨span, request, rest, first, mixed⟩ := (parse_format_append parsed parsedNamed).1
      ⟨_, List.mem_cons_self, _, List.mem_cons_self, by decide⟩
    cases first
    exact mixed
  · obtain ⟨whole, _, _, together⟩ := (parse_format_append parsed parsedBack).2 (by decide)
    have unnumbered : ∀ right ∈ [((⟨2, 4⟩ : Span), decimal)], ∀ position,
        right.2.selector ≠ .number position := by simp [decimal, Placeholder.plain]
    -- Either run is that of the first template, and then that of the second one on what is left.
    constructor
    · rw [together unnumbered]
      simp only [format_outcome parsed, format_outcome parsedBack]
      decide +kernel
    · rw [together unnumbered]
      simp only [format_outcome parsed, format_outcome parsedBack]
      rfl

end TextTemplate
