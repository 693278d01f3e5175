import TextTemplate.Proofs.Template.FirstFault
import TextTemplate.Proofs.Template.Rendering

/-! Every error points at the part of the template that it is about. -/

namespace TextTemplate

/-- A stretch of a text is one of its parts, between what stands in front of it and behind. -/
structure Span.Cuts (span : Span) (source : String) (front text back : List Char) : Prop where
  whole : source.toList = front ++ (text ++ back)
  place : span = ⟨byteLength front, byteLength front + byteLength text⟩

/-- A stretch lies in a text and does not cut a character. -/
structure Span.Within (span : Span) (source : String) : Prop where
  ordered : span.start ≤ span.stop
  inside : span.stop ≤ source.utf8ByteSize
  start : String.Pos.Raw.IsValid source ⟨span.start⟩
  stop : String.Pos.Raw.IsValid source ⟨span.stop⟩

/-- Characters are a placeholder behind others: they spell one, and those in front of it are read
as a template. -/
structure IsPlaceholderBehind (front text : List Char) : Prop where
  front : ∃ before, Template.parse (String.ofList front) = .ok before
  spelled : ∃ request, SpellsPlaceholder text request

/-- The stretch of the template that an error points at. -/
def FormatError.span : FormatError → Span
  | .parse error => error.span
  | .render error => error.span

/-- What the part of a template is that an error points at.

It is the percent sign or the key that is at fault, and a placeholder for all other errors. -/
inductive FormatError.PointsAt (front : List Char) : FormatError → List Char → Prop where
  | unexpected {position : Nat} {remainder : String} :
    PointsAt front (.parse (.unexpected position remainder)) ['%']
  | keyPath {position : Nat} {key : String} :
    PointsAt front (.parse (.keyPath position key)) key.toList
  | mixed {span : Span} {text : List Char} (placeholder : IsPlaceholderBehind front text) :
    PointsAt front (.parse (.mixed span)) text
  | render {error : RenderError} {text : List Char} (placeholder : IsPlaceholderBehind front text) :
    PointsAt front (.render error) text

/-- A part of a text lies in it. -/
theorem Span.Cuts.within {span : Span} {source : String} {front text back : List Char}
    (cuts : span.Cuts source front text back) : span.Within source := by
  obtain ⟨whole, rfl⟩ := cuts
  -- Both ends of the stretch are ends of a front of the text.
  have size := byteLength_toList source
  rw [whole, byteLength_append, byteLength_append] at size
  have split : source.toList = (front ++ text) ++ back := by rw [whole, List.append_assoc]
  refine ⟨Nat.le_add_right _ _, by simp only; omega, isValid_byteLength whole, ?_⟩
  have stop := isValid_byteLength split
  rwa [byteLength_append] at stop

/-- The front of a decomposition decomposes the front of the text. -/
theorem Decomposes.left_of_append {cs : List Char} {left right : List Part}
    (decomposes : Decomposes SpellsPlaceholder cs (left ++ right)) :
    Decomposes SpellsPlaceholder (written left) left := by
  obtain ⟨_, forms, apart, unmixed⟩ := decomposes
  rw [List.map_append] at apart
  refine ⟨rfl, fun part member => forms part (List.mem_append_left _ member),
    apart.left_of_append, ?_⟩
  -- Placeholders of both kinds in front would be mixed in the whole too.
  rw [unmixed_iff_map] at unmixed ⊢
  rintro ⟨named, positional⟩
  simp only [List.map_append, List.mem_append] at unmixed
  exact unmixed ⟨.inl named, .inl positional⟩

/-- A node of a layout is that of a part behind others. -/
theorem exists_of_mem_layOut {position : Nat} {parts : List Part} {node : Node}
    (member : node ∈ layOut position parts) :
    ∃ left part right, parts = left ++ part :: right ∧ node.piece = part.piece ∧
      node.span = ⟨position + byteLength (written left),
        position + byteLength (written left) + byteLength part.text⟩ := by
  -- The part is the first one, or it is one of the others, which are laid out behind it.
  induction parts generalizing position with
  | nil => cases member
  | cons part parts ih =>
    rcases List.mem_cons.mp member with rfl | member
    · exact ⟨[], part, parts, rfl, rfl, rfl⟩
    · obtain ⟨left, other, right, rfl, piece, span⟩ := ih member
      refine ⟨part :: left, other, right, rfl, piece, ?_⟩
      rw [span, written_cons, byteLength_append, Nat.add_assoc position]

/-- A placeholder among the nodes of a template is a placeholder of the text. -/
theorem exists_cuts_placeholder {source : String} {template : Template}
    (parsed : Template.parse source = .ok template) {node : Node} (member : node ∈ template.nodes)
    {request : Placeholder} (placeholder : node.piece = .placeholder request) :
    ∃ front text back, node.span.Cuts source front text back ∧ IsPlaceholderBehind front text := by
  obtain ⟨parts, decomposes, rfl⟩ := parse_eq_ok_iff.mp parsed
  obtain ⟨left, part, right, rfl, piece, span⟩ := exists_of_mem_layOut member
  have follows := decomposes.forms part (by simp)
  have front := parse_eq_ok_iff.mpr
    ⟨left, by rw [String.toList_ofList]; exact decomposes.left_of_append, rfl⟩
  have whole := decomposes.whole.symm
  rw [written_append, written_cons] at whole
  rw [Nat.zero_add] at span
  refine ⟨written left, part.text, written right, ⟨whole, span⟩, ⟨⟨_, front⟩, request, ?_⟩⟩
  -- Of the parts, only those that spell a placeholder have one as their piece.
  cases follows with
  | literal => simp [placeholder] at piece
  | percent => simp [placeholder] at piece
  | placeholder spelled =>
    rw [placeholder, Piece.placeholder.injEq] at piece
    exact piece ▸ spelled

/-- Rendering fails at a placeholder. -/
theorem renderNodes_error_node {args : List Value} {nodes : List Node} {next : Nat}
    {before after : CallHistory} {error : RenderError}
    (failed : (renderNodes args next nodes).outcome before = (.error error, after)) :
    ∃ node ∈ nodes, (∃ request, node.piece = .placeholder request) ∧ error.span = node.span := by
  -- The error carries the place of the first node that is not shown.
  induction nodes generalizing next before with
  | nil => cases failed
  | cons node nodes ih =>
    rw [renderNodes_cons] at failed
    cases rendered : (node.piece.render args next).outcome before with
    | mk result middle =>
      rw [rendered] at failed
      cases result with
      | error fault =>
        -- Neither text nor a percent sign fails.
        cases failed
        refine ⟨node, List.mem_cons_self, ?_, rfl⟩
        cases piece : node.piece with
        | literal text =>
          rw [piece] at rendered
          cases rendered
        | percent =>
          rw [piece] at rendered
          cases rendered
        | placeholder request => exact ⟨request, rfl⟩
      | ok front =>
        cases others : (renderNodes args (node.piece.advance next) nodes).outcome middle with
        | mk result last =>
          cases result with
          | error other =>
            simp only [others] at failed
            cases failed
            obtain ⟨found, member, placeholder, span⟩ := ih others
            exact ⟨found, List.mem_cons_of_mem _ member, placeholder, span⟩
          | ok back => simp [others] at failed

/-- A placeholder that conflicts with those in front is the error, whatever stands behind it. -/
theorem readNodes_conflict {body : List Char} {request : Placeholder}
    (spelled : SpellsPlaceholder ('%' :: body) request) {addressing : Option Addressing}
    (conflicts : (Piece.placeholder request).conflicts addressing) (position : Nat)
    (rest : List Char) :
    readNodes position addressing ('%' :: (body ++ rest)) =
      .error (.mixed ⟨position, position + byteLength ('%' :: body)⟩) := by
  have taken := @readNodes_part _ (.placeholder spelled) rest nofun position addressing
  rwa [if_pos conflicts] at taken

/-- An error of reading points at its part of the text. -/
theorem parse_error_cuts {source : String} {error : ParseError}
    (failed : Template.parse source = .error error) :
    ∃ front text back, error.span.Cuts source front text back ∧
      FormatError.PointsAt front (.parse error) text := by
  -- The error is decided at the first percent sign out of place, behind a front that is a template.
  obtain ⟨parts, rest, whole, decomposes, single, cause⟩ := exists_first_fault failed
  have front := parse_eq_ok_iff.mpr ⟨parts, by rwa [String.toList_ofList], rfl⟩
  have behind := parse_behind decomposes rest
  rw [← whole, String.ofList_toList, failed] at behind
  rcases cause with ⟨fault, read⟩ | ⟨body, back, request, rfl, spelled, conflicts⟩
  · rw [readNodes_fault read single] at behind
    cases behind
    cases fault with
    | unexpected => exact ⟨written parts, ['%'], rest, ⟨whole, rfl⟩, .unexpected⟩
    | keyPath key =>
      -- The key stands behind the percent sign and a parenthesis.
      obtain ⟨body, back, split, form, _⟩ := readPlaceholder_keyPath read
      have begins : '%' :: body <+: '%' :: rest := ⟨back, by rw [split, List.cons_append]⟩
      obtain ⟨tail, keyed, _⟩ := form.key begins
      have start : byteLength (written parts ++ ['%', '(']) = byteLength (written parts) + 2 :=
        byteLength_append _ _
      refine ⟨written parts ++ ['%', '('], (String.ofList key).toList, ')' :: tail, ⟨?_, ?_⟩,
        .keyPath⟩
      · rw [whole, keyed, String.toList_ofList]
        simp
      · rw [start]
        rfl
  · rw [readNodes_conflict spelled conflicts] at behind
    cases behind
    exact ⟨written parts, '%' :: body, back, ⟨whole, rfl⟩, .mixed ⟨⟨_, front⟩, request, spelled⟩⟩

/-- An error points at its part of the template. -/
theorem format_error_cuts {source : String} {args : List Value} {before after : CallHistory}
    {error : FormatError} (failed : (format source args).outcome before = (.error error, after)) :
    ∃ front text back, error.span.Cuts source front text back ∧ error.PointsAt front text := by
  -- Reading fails, or rendering does at one of the placeholders read.
  cases parsed : Template.parse source with
  | error refused =>
    simp only [format, parsed, outcome_pure] at failed
    cases failed
    exact parse_error_cuts parsed
  | ok template =>
    rw [format_outcome parsed] at failed
    cases rendered : (renderNodes args 1 template.nodes).outcome before with
    | mk result last =>
      rw [rendered] at failed
      cases result with
      | ok text => cases failed
      | error refused =>
        cases failed
        obtain ⟨node, member, ⟨request, piece⟩, span⟩ := renderNodes_error_node rendered
        obtain ⟨front, text, back, cuts, placeholder⟩ :=
          exists_cuts_placeholder parsed member piece
        refine ⟨front, text, back, ?_, .render placeholder⟩
        rwa [FormatError.span, span]

end TextTemplate
