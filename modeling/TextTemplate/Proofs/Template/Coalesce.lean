import TextTemplate.Proofs.Template.Nodes
import TextTemplate.Proofs.Template.Rendering

/-! Literal text that comes in several parts is read as one literal, which changes nothing else. -/

namespace TextTemplate

/-- Puts a part before others, as one literal with the first of them where both are literal. -/
def Part.attach (part : Part) : List Part → List Part
  | [] => [part]
  | next :: parts =>
    if part.piece.isLiteral ∧ next.piece.isLiteral then
      ⟨part.text ++ next.text, .literal (String.ofList (part.text ++ next.text))⟩ :: parts
    else part :: next :: parts

/-- Parts with each run of literals made into one. -/
def coalesce (parts : List Part) : List Part :=
  parts.foldr Part.attach []

/-- The request of a node and its place, if the node is a placeholder. -/
def Node.placeholder? (node : Node) : Option (Span × Placeholder) :=
  match node.piece with
  | .placeholder request => some (node.span, request)
  | .literal _ | .percent => none

/-- The placeholders of a template are those of its nodes. -/
theorem placeholders_eq (template : Template) :
    template.placeholders = template.nodes.filterMap Node.placeholder? := by
  -- Both pick the request out of the same kind of piece.
  refine List.filterMap_congr fun node _ => ?_
  unfold Node.placeholder?
  split
  · rename_i piece
    rw [piece]
  · rename_i other
    split
    · rename_i piece
      exact absurd piece (other _)
    · rfl
    · rfl

variable {part : Part} {parts : List Part}

/-- A literal part carries its own characters. -/
theorem Part.Follows.literal_text (follows : part.Follows SpellsPlaceholder)
    (literal : part.piece.isLiteral) : part.piece = .literal (String.ofList part.text) := by
  -- Only the first kind of part is literal.
  cases follows with
  | literal => rfl
  | percent => simp [Piece.isLiteral] at literal
  | placeholder => simp [Piece.isLiteral] at literal

/-- Parts are attached as they are, or two literals become one. -/
theorem attach_cases (follows : part.Follows SpellsPlaceholder)
    (forms : ∀ next ∈ parts, next.Follows SpellsPlaceholder) :
    part.attach parts = part :: parts ∧ (∀ next ∈ parts.head?, part.piece.Apart next.piece) ∨
    ∃ front back rest, part = ⟨front, .literal (String.ofList front)⟩ ∧
      parts = ⟨back, .literal (String.ofList back)⟩ :: rest ∧
      part.attach parts = ⟨front ++ back, .literal (String.ofList (front ++ back))⟩ :: rest := by
  cases parts with
  | nil => exact .inl ⟨rfl, by simp⟩
  | cons next rest =>
    -- Both parts must be literal to become one.
    by_cases both : part.piece.isLiteral ∧ next.piece.isLiteral
    · refine .inr ⟨part.text, next.text, rest, ?_, ?_, if_pos both⟩
      · rw [← follows.literal_text both.1]
      · rw [← (forms next (by simp)).literal_text both.2]
    · refine .inl ⟨if_neg both, ?_⟩
      intro other first
      cases first
      exact both

/-- Two literals make up one literal. -/
theorem Part.Follows.append {front back : List Char}
    (follows : Part.Follows SpellsPlaceholder ⟨front, .literal (String.ofList front)⟩)
    (followsToo : Part.Follows SpellsPlaceholder ⟨back, .literal (String.ofList back)⟩) :
    Part.Follows SpellsPlaceholder
      ⟨front ++ back, .literal (String.ofList (front ++ back))⟩ := by
  have clean : front ≠ [] ∧ '%' ∉ front := by
    cases follows
    constructor <;> assumption
  have cleanToo : '%' ∉ back := by
    cases followsToo
    assumption
  -- No percent sign comes in at the seam.
  exact .literal (by simp [clean.1]) (by simp [clean.2, cleanToo])

/-- Coalesced parts are parts of the same text, each with its form and no two literals in a row. -/
theorem coalesce_forms (forms : ∀ part ∈ parts, part.Follows SpellsPlaceholder) :
    (∀ part ∈ coalesce parts, part.Follows SpellsPlaceholder) ∧
      written (coalesce parts) = written parts ∧
      ((coalesce parts).map Part.piece).IsChain Piece.Apart := by
  -- Each part is attached to parts that are coalesced already.
  induction parts with
  | nil => exact ⟨by simp [coalesce], rfl, .nil⟩
  | cons part parts ih =>
    have follows := forms part (by simp)
    obtain ⟨restForms, text, apart⟩ := ih fun next member => forms next (by simp [member])
    rw [coalesce, List.foldr_cons, ← coalesce, written_cons, ← text]
    rcases attach_cases follows restForms with
      ⟨same, beside⟩ | ⟨front, back, rest, rfl, split, joined⟩
    · rw [same]
      refine ⟨by simpa [follows] using restForms, by simp, List.isChain_cons.mpr ⟨?_, apart⟩⟩
      -- The next part is not literal beside a literal one, so the two are apart.
      intro piece first
      rw [List.head?_map, Option.mem_def, Option.map_eq_some_iff] at first
      obtain ⟨next, first, rfl⟩ := first
      exact beside next first
    · rw [split] at restForms apart
      rw [joined, split]
      refine ⟨?_, by simp, ?_⟩
      · intro next member
        rcases List.mem_cons.mp member with rfl | member
        · exact follows.append (restForms _ (by simp))
        · exact restForms next (by simp [member])
      · -- The joined literal has the neighbour of the second one.
        obtain ⟨beside, apart⟩ := List.isChain_cons.mp apart
        exact List.isChain_cons.mpr ⟨beside, apart⟩

/-- A literal is shown in front of what follows it. -/
theorem renderNodes_literal (args : List Value) (next : Nat) (span : Span) (text : List Char)
    (nodes : List Node) (before : CallHistory) :
    (renderNodes args next (⟨span, .literal (String.ofList text)⟩ :: nodes)).outcome before =
      match (renderNodes args next nodes).outcome before with
      | (.error error, after) => (.error error, after)
      | (.ok back, after) => (.ok (text ++ back), after) := by
  -- A literal neither fails nor calls anything.
  rw [renderNodes_cons]
  simp only [Piece.render, outcome_pure, String.toList_ofList]
  rfl

/-- Parts become others where literals in a row are made into one. -/
inductive Merges : List Part → List Part → Prop where
  | done : Merges [] []
  | keep {part : Part} {parts others : List Part} :
      Merges parts others → Merges (part :: parts) (part :: others)
  | join {front back : List Char} {parts others : List Part} :
      Merges parts (⟨back, .literal (String.ofList back)⟩ :: others) →
      Merges (⟨front, .literal (String.ofList front)⟩ :: parts)
        (⟨front ++ back, .literal (String.ofList (front ++ back))⟩ :: others)

/-- Coalescing makes literals in a row into one. -/
theorem merges_coalesce (forms : ∀ part ∈ parts, part.Follows SpellsPlaceholder) :
    Merges parts (coalesce parts) := by
  induction parts with
  | nil => exact .done
  | cons part parts ih =>
    have restForms : ∀ next ∈ parts, next.Follows SpellsPlaceholder :=
      fun next member => forms next (by simp [member])
    have rest := ih restForms
    rw [coalesce, List.foldr_cons, ← coalesce]
    -- A part is kept or joined to the literal that is next.
    rcases attach_cases (forms part (by simp)) (coalesce_forms restForms).1 with
      ⟨same, _⟩ | ⟨front, back, others, rfl, split, joined⟩
    · rw [same]
      exact .keep rest
    · rw [split] at rest
      rw [joined]
      exact .join rest

namespace Merges

variable {others : List Part} (merges : Merges parts others)

include merges

/-- Nodes address arguments alike when literals are merged. -/
theorem firstConflict_eq (addressing : Option Addressing) (position : Nat) :
    firstConflict addressing (layOut position others) =
      firstConflict addressing (layOut position parts) := by
  -- Literals address nothing, so only the positions matter.
  induction merges generalizing addressing position with
  | done => rfl
  | keep _ ih => simp only [layOut, firstConflict, ih]
  | @join front back parts others _ ih =>
    have rest := ih addressing (position + byteLength front)
    simp only [layOut, firstConflict, Piece.conflicts, Piece.addressing?, Option.any_none,
      Option.none_or, Bool.false_eq_true, if_false, byteLength_append] at rest ⊢
    rw [← rest, Nat.add_assoc]

/-- The placeholders are the same when literals are merged. -/
theorem placeholders_eq (position : Nat) :
    (layOut position others).filterMap Node.placeholder? =
      (layOut position parts).filterMap Node.placeholder? := by
  -- A joined literal ends where the second one does.
  induction merges generalizing position with
  | done => rfl
  | keep _ ih => simp only [layOut, List.filterMap_cons, ih]
  | @join front back parts others _ ih =>
    have rest := ih (position + byteLength front)
    simp only [layOut, List.filterMap_cons, Node.placeholder?, byteLength_append] at rest ⊢
    rw [← rest, Nat.add_assoc]

/-- Nodes are rendered alike when literals are merged. -/
theorem renderNodes_eq (args : List Value) (next position : Nat) (before : CallHistory) :
    (renderNodes args next (layOut position others)).outcome before =
      (renderNodes args next (layOut position parts)).outcome before := by
  induction merges generalizing next position before with
  | done => rfl
  | keep _ ih => simp only [layOut, renderNodes_cons, ih]
  | @join front back parts others _ ih =>
    have rest := ih next (position + byteLength front) before
    simp only [layOut, renderNodes_literal, byteLength_append] at rest ⊢
    rw [← rest, Nat.add_assoc]
    -- The characters of both literals stand in front of the rest.
    obtain ⟨result, after⟩ := (renderNodes args next (layOut _ others)).outcome before
    cases result with
    | error error => rfl
    | ok shown => simp

end Merges

/-- Parts of a text are read as coalesced, unless a placeholder among them mixes addressing. -/
theorem parse_written (forms : ∀ part ∈ parts, part.Follows SpellsPlaceholder) :
    Template.parse (String.ofList (written parts)) =
      match firstConflict none (layOut 0 parts) with
      | some span => .error (.mixed span)
      | none => .ok ⟨String.ofList (written parts), layOut 0 (coalesce parts)⟩ := by
  -- The coalesced parts are read one by one, and they conflict where the given ones do.
  obtain ⟨coalesced, text, apart⟩ := coalesce_forms forms
  have read := readNodes_written coalesced apart [] (by simp) 0 none
  rw [List.append_nil, text, (merges_coalesce forms).firstConflict_eq] at read
  rw [Template.parse, String.toList_ofList, read]
  cases firstConflict none (layOut 0 parts) with
  | some span => rfl
  | none => simp [readNodes, Except.map]

end TextTemplate
