import TextTemplate.Proofs.Entries
import TextTemplate.Proofs.Json.Unambiguous
import TextTemplate.Proofs.Json.Writer
import TextTemplate.Proofs.Template.Printer
import TextTemplate.Proofs.Value.Deferred
import TextTemplate.Proofs.Value.Members

/-! A dump is one document in JSON that is read back as the value, but for numbers that JSON does
not tell apart. -/

namespace TextTemplate

/-- A number equals an integer exactly when that is its value and is at most 2 ^ 53. -/
theorem Binary64.exactInteger?_eq_some_iff {x : Binary64} {n : Int} :
    x.exactInteger? = some n ↔ x.value? = some (n : ℚ) ∧ n.natAbs ≤ 2 ^ 53 := by
  cases x with
  | nan => simp [exactInteger?, value?]
  | infinite => simp [exactInteger?, value?]
  | finite negative m =>
    have natAbs : ∀ whole : Nat, (signedInt negative whole).natAbs = whole := by
      intro whole
      unfold signedInt
      split <;> simp
    have value : ∀ whole : Nat, m.ratio.value = whole →
        (if negative then -m.ratio.value else m.ratio.value) = signedInt negative whole := by
      rintro whole same
      rw [same]
      unfold signedInt
      split <;> simp
    simp only [exactInteger?, value?, Option.some.injEq]
    constructor
    -- The units of the number are a multiple of those of one, and so it is whole.
    · intro found
      split at found
      · rename_i fits
        obtain rfl := Option.some.inj found
        rw [natAbs]
        refine ⟨value _ ?_, fits.2⟩
        rw [Magnitude.value_eq_iff]
        exact (Nat.div_mul_cancel (Nat.dvd_of_mod_eq_zero fits.1)).symm
      · cases found
    · rintro ⟨same, small⟩
      -- The magnitude is that of the integer, so its units are a multiple of those of one.
      have positive : 0 ≤ m.ratio.value := by
        rw [m.value_ratio]
        exact mul_nonneg (Nat.cast_nonneg _) m.step_pos.le
      have whole : m.ratio.value = n.natAbs := by
        rw [Nat.cast_natAbs, Int.cast_abs, ← same]
        split
        · rw [abs_neg, abs_of_nonneg positive]
        · rw [abs_of_nonneg positive]
      have units := Magnitude.value_eq_iff.mp whole
      rw [units, Nat.mul_mod_left, Nat.mul_div_cancel _ (twoPow_pos 1074), if_pos ⟨rfl, small⟩]
      rw [value _ whole] at same
      exact congrArg some (Int.cast_injective same)

namespace Value

open Json

/-- A value is null or a number that JSON has none for. -/
inductive IsVoid : Value → Prop where
  | null : IsVoid .null
  | number {x : Binary64} : x.isFinite = false → IsVoid (.float x)

/-- A value is an integer, or a floating point number of its value that is at most 2 ^ 53. -/
inductive IsWhole : Value → Int → Prop where
  | int (n : Int64) : IsWhole (.int n) n.toInt
  | float {x : Binary64} {n : Int} : x.value? = some (n : ℚ) → n.natAbs ≤ 2 ^ 53 →
      IsWhole (.float x) n

mutual

/-- What a value is read back as once it is dumped: integers as numbers without decimals, other
numbers by their shortest digits, and entries in order under names of which none comes twice. -/
inductive ReadsAs : Value → Json.Tree → Prop where
  | void {value : Value} : value.IsVoid → ReadsAs value .null
  | bool (b : Bool) : ReadsAs (.bool b) (.bool b)
  | whole {value : Value} {n : Int} {numeral : Json.Numeral} : value.IsWhole n →
      numeral.IsInteger → numeral.literal.value = n → ReadsAs value (.number numeral)
  | decimal {x : Binary64} {literal : Literal} {numeral : Json.Numeral} : x.isFinite →
      (∀ n, ¬ IsWhole (.float x) n) → literal.IsShortest x → ¬ numeral.IsInteger →
      numeral.literal.value = literal.value → ReadsAs (.float x) (.number numeral)
  | text (s : String) : ReadsAs (.text s) (.string s)
  | list {items : List Value} {trees : List Json.Tree} : ReadItems items trees →
      ReadsAs (.list items) (.array trees)
  | map {entries : List (String × Value)} {members : List (String × Json.Tree)} :
      (Entries.keys members).Nodup → ReadEntries entries members →
      ReadsAs (.map entries) (.object members)

/-- What values are read back as, in order. -/
inductive ReadItems : List Value → List Json.Tree → Prop where
  | nil : ReadItems [] []
  | cons {item : Value} {tree : Json.Tree} {items : List Value} {trees : List Json.Tree} :
      ReadsAs item tree → ReadItems items trees → ReadItems (item :: items) (tree :: trees)

/-- What entries are read back as, in order and under the same names. -/
inductive ReadEntries : List (String × Value) → List (String × Json.Tree) → Prop where
  | nil : ReadEntries [] []
  | cons {key : String} {value : Value} {tree : Json.Tree} {entries : List (String × Value)}
      {members : List (String × Json.Tree)} : ReadsAs value tree → ReadEntries entries members →
      ReadEntries ((key, value) :: entries) ((key, tree) :: members)

end

mutual

/-- Two values that differ only where JSON does not tell them apart: in null and numbers that JSON
has none for, and in integers and floating point numbers of their values. -/
inductive Identified : Value → Value → Prop where
  | void {value other : Value} : value.IsVoid → other.IsVoid → Identified value other
  | bool (b : Bool) : Identified (.bool b) (.bool b)
  | whole {value other : Value} {n : Int} : value.IsWhole n → other.IsWhole n →
      Identified value other
  | float (x : Binary64) : Identified (.float x) (.float x)
  | text (s : String) : Identified (.text s) (.text s)
  | list {items others : List Value} : IdentifiedItems items others →
      Identified (.list items) (.list others)
  | map {entries others : List (String × Value)} : IdentifiedEntries entries others →
      Identified (.map entries) (.map others)

/-- Values in order of which each differs only so from its counterpart. -/
inductive IdentifiedItems : List Value → List Value → Prop where
  | nil : IdentifiedItems [] []
  | cons {item other : Value} {items others : List Value} : Identified item other →
      IdentifiedItems items others → IdentifiedItems (item :: items) (other :: others)

/-- Entries in order, with the same names, of which each differs only so from its counterpart. -/
inductive IdentifiedEntries : List (String × Value) → List (String × Value) → Prop where
  | nil : IdentifiedEntries [] []
  | cons {key : String} {value other : Value} {entries others : List (String × Value)} :
      Identified value other → IdentifiedEntries entries others →
      IdentifiedEntries ((key, value) :: entries) ((key, other) :: others)

end

/-- Entries are read back under the same names. -/
theorem ReadEntries.keys_eq {entries : List (String × Value)}
    {members : List (String × Json.Tree)} :
    ReadEntries entries members → Entries.keys members = Entries.keys entries
  | .nil => rfl
  | .cons _ rest => by rw [Entries.keys_cons, Entries.keys_cons, rest.keys_eq]

/-- A number that is not whole is finite and not zero. -/
theorem exists_positive {x : Binary64} (finite : x.isFinite)
    (broken : ∀ n, ¬ IsWhole (.float x) n) :
    ∃ negative m, x = .finite negative m ∧ 0 < m.significand := by
  -- Zero is whole, with either sign.
  cases x with
  | nan | infinite => exact absurd finite nofun
  | finite negative m =>
    refine ⟨negative, m, rfl, Nat.pos_of_ne_zero fun zero => broken 0 (.float ?_ (by decide))⟩
    have value : m.ratio.value = 0 := by
      rw [m.value_ratio, zero, Nat.cast_zero, zero_mul]
    rw [Binary64.value?, value, neg_zero, ite_self, Int.cast_zero]

/-- Numbers that are read back as the same decimal number are the same. -/
theorem eq_of_isShortest {x y : Binary64} {literal other : Literal} (finite : x.isFinite)
    (broken : ∀ n, ¬ IsWhole (.float x) n) (shortest : literal.IsShortest x)
    (also : other.IsShortest y) (same : other.value = literal.value) : x = y := by
  -- A literal is read by its value, so that both are read as one number.
  obtain ⟨negative, m, rfl, positive⟩ := exists_positive finite broken
  rw [← also.reads, Literal.toBinary64_eq_of_value_eq positive shortest.reads same]

-- The induction is on how the first value is read back. The document tells how the other is, but
-- for null, integers and other numbers, which may come from different values.
mutual

/-- Values that are read back as the same document differ only where JSON does not tell them
apart. -/
theorem ReadsAs.identified {value other : Value} {tree : Json.Tree} :
    value.ReadsAs tree → other.ReadsAs tree → value.Identified other
  | .void void, also => by
    cases also with
    | void another => exact .void void another
  | .bool b, also => by
    cases also with
    | bool => exact .bool b
  | .whole whole integer value, also => by
    cases also with
    | whole another _ same =>
      obtain rfl := Int.cast_injective (value.symm.trans same)
      exact .whole whole another
    -- Numbers that are not whole are written with decimals or a power of ten.
    | decimal _ _ _ broken => exact absurd integer broken
  | .decimal finite broken shortest decimals value, also => by
    cases also with
    | whole _ integer => exact absurd integer decimals
    | decimal _ _ another _ same =>
      -- Both numbers are read from literals of one value.
      obtain rfl := eq_of_isShortest finite broken shortest another (same.symm.trans value)
      exact .float _
  | .text s, also => by
    cases also with
    | text => exact .text s
  | .list items, also => by
    cases also with
    | list others => exact .list (items.identified others)
  | .map _ entries, also => by
    cases also with
    | map _ others => exact .map (entries.identified others)

/-- Values that are read back as the same documents differ only so, each from its counterpart. -/
theorem ReadItems.identified {items others : List Value} {trees : List Json.Tree} :
    ReadItems items trees → ReadItems others trees → IdentifiedItems items others
  | .nil, also => by
    cases also with
    | nil => exact .nil
  | .cons item items, also => by
    cases also with
    | cons other others => exact .cons (item.identified other) (items.identified others)

/-- Entries that are read back as the same members differ only so, each from its counterpart. -/
theorem ReadEntries.identified {entries others : List (String × Value)}
    {members : List (String × Json.Tree)} :
    ReadEntries entries members → ReadEntries others members → IdentifiedEntries entries others
  | .nil, also => by
    cases also with
    | nil => exact .nil
  | .cons value entries, also => by
    cases also with
    | cons other others => exact .cons (value.identified other) (entries.identified others)

end

/-- A number is written as a document that it is read back as. -/
theorem exists_document_float (x : Binary64) :
    ∃ tree, (∀ Gap : List Char → Prop, ∀ depth, Spells Gap ((floatJson x).write 0 depth) tree) ∧
      ReadsAs (.float x) tree := by
  unfold floatJson
  cases exact : x.exactInteger? with
  -- A whole number is written as its integer.
  | some n =>
    obtain ⟨value, small⟩ := Binary64.exactInteger?_eq_some_iff.mp exact
    obtain ⟨numeral, spelled, integer, same⟩ := exists_spellsNumeral_int n
    exact ⟨.number numeral, fun _ _ => .number spelled, .whole (.float value small) integer same⟩
  | none =>
    -- Any other finite number has its shortest digits, with decimals or a power of ten.
    have broken : ∀ n, ¬ IsWhole (.float x) n := by
      rintro n ⟨⟩
      rename_i small value
      rw [Binary64.exactInteger?_eq_some_iff.mpr ⟨value, small⟩] at exact
      exact absurd exact nofun
    cases x with
    | nan | infinite => exact ⟨.null, fun _ _ => .null, .void (.number rfl)⟩
    | finite negative m =>
      obtain ⟨_, _, same, positive⟩ := exists_positive rfl broken
      cases same
      obtain ⟨numeral, literal, spelled, decimals, shortest, same⟩ :=
        exists_spellsNumeral_float positive negative
      exact ⟨.number numeral, fun _ _ => .number spelled,
        .decimal rfl broken shortest decimals same⟩

-- The induction is on the value, for all spaces that may stay out and for every depth: the items
-- of a list and the entries of a map stand one deeper.
mutual

/-- A value without deferred values is dumped as a document that it is read back as. -/
theorem exists_document : (value : Value) → value.isCallFree → value.HasDistinctKeys →
    ∃ json tree, value.toJson = pure json ∧
      (∀ Gap : List Char → Prop, Gap [] → ∀ depth, Spells Gap (json.write 0 depth) tree) ∧
      value.ReadsAs tree
  | .null, _, _ => ⟨.null, .null, rfl, fun _ _ _ => .null, .void .null⟩
  | .bool b, _, _ => by
    refine ⟨.bool b, .bool b, rfl, fun Gap _ depth => ?_, .bool b⟩
    cases b with
    | false => exact .isFalse
    | true => exact .isTrue
  -- An integer has a numeral.
  | .int n, _, _ => by
    obtain ⟨numeral, spelled, integer, same⟩ := exists_spellsNumeral_int n.toInt
    exact ⟨.int n.toInt, .number numeral, rfl, fun _ _ _ => .number spelled,
      .whole (.int n) integer same⟩
  | .float x, _, _ => by
    obtain ⟨tree, spelled, read⟩ := exists_document_float x
    exact ⟨floatJson x, tree, rfl, fun Gap _ depth => spelled Gap depth, read⟩
  | .text s, _, _ => ⟨.string s, .string s, rfl, fun _ _ _ => .string (spellsString_writeString s),
      .text s⟩
  -- Parts that are read back make up a whole that is.
  | .list items, free, distinct => by
    obtain ⟨documents, trees, dumped, spelled, read⟩ := exists_documents items free distinct
    refine ⟨.array documents, .array trees, ?_, fun Gap nothing depth => ?_, .list read⟩
    · rw [toJson, dumped]
      rfl
    · exact spells_array nothing depth (spelled Gap nothing depth)
  | .map entries, free, distinct => by
    obtain ⟨documents, trees, dumped, spelled, read⟩ := exists_members entries free distinct.2
    refine ⟨.object documents, .object trees, ?_, fun Gap nothing depth => ?_, .map ?_ read⟩
    · rw [toJson, dumped]
      rfl
    · exact spells_object nothing depth (spelled Gap nothing depth)
    · rw [read.keys_eq]
      exact distinct.1

/-- Values without deferred values are dumped as documents that they are read back as. -/
theorem exists_documents : (items : List Value) → areCallFree items → HaveDistinctKeys items →
    ∃ documents trees, jsonItems items = pure documents ∧
      (∀ Gap : List Char → Prop, Gap [] → ∀ depth,
        List.Forall₂ (Spells Gap) (writeItems 0 depth documents) trees) ∧
      ReadItems items trees
  | [], _, _ => ⟨[], [], rfl, fun _ _ _ => .nil, .nil⟩
  -- The first item is read back, and so are the others.
  | item :: items, free, distinct => by
    obtain ⟨first, rest⟩ := Bool.and_eq_true_iff.mp free
    obtain ⟨document, tree, dumped, spelled, read⟩ := exists_document item first distinct.1
    obtain ⟨documents, trees, others, each, also⟩ := exists_documents items rest distinct.2
    refine ⟨document :: documents, tree :: trees, ?_, fun Gap nothing depth => ?_, .cons read also⟩
    · rw [jsonItems, dumped, others]
      rfl
    · exact .cons (spelled Gap nothing (depth + 1)) (each Gap nothing depth)

/-- Entries without deferred values are dumped as members that they are read back as. -/
theorem exists_members : (entries : List (String × Value)) → holdCallFree entries →
    HoldDistinctKeys entries →
    ∃ documents trees, jsonMembers entries = pure documents ∧
      (∀ Gap : List Char → Prop, Gap [] → ∀ depth,
        List.Forall₂ (SpellsMember Gap) (writeMembers 0 depth documents) trees) ∧
      ReadEntries entries trees
  | [], _, _ => ⟨[], [], rfl, fun _ _ _ => .nil, .nil⟩
  -- The name is written as a string, and its value behind it.
  | (key, value) :: entries, free, distinct => by
    obtain ⟨first, rest⟩ := Bool.and_eq_true_iff.mp free
    obtain ⟨document, tree, dumped, spelled, read⟩ := exists_document value first distinct.1
    obtain ⟨documents, trees, others, each, also⟩ := exists_members entries rest distinct.2
    refine ⟨(key, document) :: documents, (key, tree) :: trees, ?_, fun Gap nothing depth => ?_,
      .cons read also⟩
    · rw [jsonMembers, dumped, others]
      rfl
    · refine .cons ⟨_, ?_, spelled Gap nothing (depth + 1)⟩ (each Gap nothing depth)
      simp

end

/-- Where JSON has no number for a value, null is dumped. -/
theorem IsVoid.toJson_eq {value : Value} (void : value.IsVoid) : value.toJson = pure .null := by
  -- A number that is not finite has no numeral.
  cases void with
  | null => rfl
  | @number x infinite =>
    cases x with
    | nan | infinite => rfl
    | finite => exact absurd infinite nofun

/-- Where a value is an integer, the integer is dumped. -/
theorem IsWhole.toJson_eq {value : Value} {n : Int} (whole : value.IsWhole n) :
    value.toJson = pure (.int n) := by
  -- A floating point number that is a small integer is dumped as one.
  cases whole with
  | int n => rfl
  | float same small =>
    have exact := Binary64.exactInteger?_eq_some_iff.mpr ⟨same, small⟩
    simp only [toJson, floatJson, exact]

mutual

/-- Values that JSON does not tell apart are dumped as the same document. -/
theorem Identified.toJson_eq {value other : Value} :
    value.Identified other → value.toJson = other.toJson
  | .void void another => void.toJson_eq.trans another.toJson_eq.symm
  | .whole whole another => whole.toJson_eq.trans another.toJson_eq.symm
  | .bool _ | .float _ | .text _ => rfl
  | .list items => by rw [toJson, toJson, items.jsonItems_eq]
  | .map entries => by rw [toJson, toJson, entries.jsonMembers_eq]

/-- Values that JSON does not tell apart are dumped as the same documents in order. -/
theorem IdentifiedItems.jsonItems_eq {items others : List Value} :
    IdentifiedItems items others → jsonItems items = jsonItems others
  | .nil => rfl
  | .cons item items => by rw [jsonItems, jsonItems, item.toJson_eq, items.jsonItems_eq]

/-- Entries that JSON does not tell apart are dumped as the same members. -/
theorem IdentifiedEntries.jsonMembers_eq {entries others : List (String × Value)} :
    IdentifiedEntries entries others → jsonMembers entries = jsonMembers others
  | .nil => rfl
  | .cons value entries => by
    rw [jsonMembers, jsonMembers, value.toJson_eq, entries.jsonMembers_eq]

end

/-- A dump on one line is a compact text of one document, which the value is read back as. -/
theorem exists_dump {value : Value} (free : value.isCallFree) (distinct : value.HasDistinctKeys) :
    ∃ text tree, value.dump 0 = pure text ∧ SpellsCompact text tree ∧
      (∀ other, SpellsText text other ↔ other = tree) ∧ value.ReadsAs tree := by
  obtain ⟨json, tree, dumped, spelled, read⟩ := exists_document value free distinct
  -- Nothing stands between the tokens of a dump on one line.
  have compact : SpellsCompact (json.write 0 0) tree := by
    apply Spells.spaced
    · rfl
    · exact spelled (· = []) rfl 0
  have nothing : ∀ cs : List Char, cs = [] → IsGap cs := by
    rintro _ rfl
    exact nofun
  refine ⟨json.write 0 0, tree, ?_, compact, fun other => ⟨?_, ?_⟩, read⟩
  · rw [dump, dumped]
    rfl
  -- Without spaces of its own, the text can be read in one way even where spaces are allowed.
  · intro also
    exact (SpellsText.unique nothing compact also).symm
  · rintro rfl
    exact (spelled IsGap nofun 0).spaced nofun

/-- Two values have the same dump when they differ only where JSON does not tell them apart. -/
theorem dump_eq_iff {value other : Value} (free : value.isCallFree)
    (distinct : value.HasDistinctKeys) (quiet : other.isCallFree) (apart : other.HasDistinctKeys) :
    other.dump 0 = value.dump 0 ↔ value.Identified other := by
  constructor
  · -- The text of both has one reading, and both values are read back as it.
    intro same
    obtain ⟨text, tree, dumped, -, readings, read⟩ := exists_dump free distinct
    obtain ⟨again, another, also, -, others, reread⟩ := exists_dump quiet apart
    obtain rfl := Calls.pure_inj.mp (also.symm.trans (same.trans dumped))
    obtain rfl := (readings another).mp ((others another).mpr rfl)
    exact read.identified reread
  -- The documents are the same before they are written.
  · intro identified
    rw [dump, dump, identified.toJson_eq]

end Value

variable {request : Placeholder} {value : Value}

/-- A value is shown as its dump with the indentation that is asked for. -/
theorem render_dump (asked : request.conversion = .json) :
    request.render value = do return .ok (← value.dump request.indent) := by
  rw [Value.dump, ← value.resolve_toJson]
  simp [Placeholder.render, Placeholder.convert, asked, Conversion.callsDeferred,
    Conversion.isNumeric, Conversion.isInteger, Except.map, Placeholder.compose, Value.dump]

/-- A value is shown as its dump, on one line where neither a width nor a precision is given. -/
theorem render_json (asked : request.conversion = .json) (width : request.width = none)
    (precision : request.precision = none) :
    request.render value = do return .ok (← value.dump 0) := by
  -- Without a number, no indentation is asked for.
  have indent : request.indent = 0 := by
    rw [Placeholder.indent, width, precision]
    rfl
  rw [render_dump asked, indent]

/-- A value without deferred values is shown as a compact text in JSON, of which the value is the
only reading, and only values that JSON does not tell apart from it are shown the same. -/
theorem render_json_reads_back (asked : request.conversion = .json)
    (width : request.width = none) (precision : request.precision = none) {args : List Value}
    {next : Nat} (picked : request.selector.pick args next = .ok value)
    (free : value.isCallFree) (distinct : value.HasDistinctKeys) :
    ∃ text tree, (Piece.placeholder request).render args next = pure (.ok text) ∧
      Json.SpellsCompact text tree ∧ (∀ other, Json.SpellsText text other ↔ other = tree) ∧
      value.ReadsAs tree ∧
      ∀ other : Value, other.isCallFree → other.HasDistinctKeys →
        (request.render other = pure (.ok text) ↔ value.Identified other) := by
  obtain ⟨text, tree, dumped, compact, readings, read⟩ := value.exists_dump free distinct
  refine ⟨text, tree, ?_, compact, readings, read, fun other quiet apart => ?_⟩
  -- The placeholder finds its argument and dumps it.
  · simp only [Piece.render, picked]
    rw [render_json asked width precision, dumped]
    rfl
  -- Two values are shown the same where their dumps are.
  · obtain ⟨again, -, also, -⟩ := other.exists_dump quiet apart
    rw [← Value.dump_eq_iff free distinct quiet apart, dumped,
      render_json asked width precision, also, pure_bind, Calls.pure_inj, Calls.pure_inj,
      Except.ok.injEq]

/-- A list of an integer, of what is not a number, of a half below zero and of a map is shown so
that it is read as a number, null, another number and an object. -/
theorem render_json_reads_back_list :
    ∃ value tree, value = .list [.int 1, .float .nan,
        .float (.finite true ⟨0x10000000000000, 1021, by decide, by decide, by decide⟩),
        .map [("\x22", .text "\n")]] ∧
      (Piece.placeholder (.plain .next .json)).render [value] 1 =
        pure (.ok "[1,null,-0.5,\x7b\x22\\\x22\x22:\x22\\n\x22\x7d]".toList) ∧
      Json.SpellsCompact "[1,null,-0.5,\x7b\x22\\\x22\x22:\x22\\n\x22\x7d]".toList tree ∧
      value.ReadsAs tree := by
  obtain ⟨text, tree, shown, compact, -, read, -⟩ :=
    @render_json_reads_back (.plain .next .json) (.list [.int 1, .float .nan,
        .float (.finite true ⟨0x10000000000000, 1021, by decide, by decide, by decide⟩),
        .map [("\x22", .text "\n")]]) rfl rfl rfl [_] 1 rfl rfl
      ⟨trivial, trivial, trivial, ⟨by decide, trivial, trivial⟩, trivial⟩
  -- The dump is computed, and what it reads as is told by the theorem.
  have evaluated : (((Piece.placeholder (.plain .next .json)).render [.list [.int 1, .float .nan,
        .float (.finite true ⟨0x10000000000000, 1021, by decide, by decide, by decide⟩),
        .map [("\x22", .text "\n")]]] 1).outcome .empty).1.toOption =
      some "[1,null,-0.5,\x7b\x22\\\x22\x22:\x22\\n\x22\x7d]".toList := by
    decide +kernel
  rw [shown] at evaluated
  obtain rfl := Option.some.inj evaluated
  exact ⟨_, tree, rfl, shown, compact, read⟩

end TextTemplate
