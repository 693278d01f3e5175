import TextTemplate.Proofs.Number.Whole
import TextTemplate.Value.Text

/-! A value is seen the same where integers in it are replaced by floating point numbers. -/

namespace TextTemplate

namespace Value

mutual

/-- Two values without deferred parts that are the same but for integers of up to 2 ^ 53, which may
stand as floating point numbers in the second. -/
inductive Alike : Value → Value → Prop where
  | null : Alike .null .null
  | bool (b : Bool) : Alike (.bool b) (.bool b)
  | int (n : Int64) : Alike (.int n) (.int n)
  | float (x : Binary64) : Alike (.float x) (.float x)
  | whole {n : Int64} {x : Binary64} (value : x.IsInteger n.toInt)
      (small : n.toInt.natAbs ≤ 2 ^ 53) : Alike (.int n) (.float x)
  | text (s : String) : Alike (.text s) (.text s)
  | list {items others : List Value} (each : AlikeItems items others) :
      Alike (.list items) (.list others)
  | map {entries others : List (String × Value)} (each : AlikeEntries entries others) :
      Alike (.map entries) (.map others)

/-- Two lists with items that are alike in order. -/
inductive AlikeItems : List Value → List Value → Prop where
  | nil : AlikeItems [] []
  | cons {item other : Value} {items others : List Value} (first : Alike item other)
      (rest : AlikeItems items others) : AlikeItems (item :: items) (other :: others)

/-- Two rows of entries with the same names and values that are alike in order. -/
inductive AlikeEntries : List (String × Value) → List (String × Value) → Prop where
  | nil : AlikeEntries [] []
  | cons {key : String} {value other : Value} {entries others : List (String × Value)}
      (first : Alike value other) (rest : AlikeEntries entries others) :
      AlikeEntries ((key, value) :: entries) ((key, other) :: others)

end

variable {value other : Value}

/-- The value of a number is like itself. -/
theorem Alike.number (number : Number) : Alike (ofNumber number) (ofNumber number) := by
  cases number with
  | int n => exact .int n
  | float x => exact .float x

/-- Values that are alike are of the same kind. -/
theorem Alike.kind_eq (alike : value.Alike other) : value.kind = other.kind := by
  -- An integer and a floating point number are both numbers.
  cases alike <;> rfl

/-- Values that are alike count as true together. -/
theorem Alike.isTrue_eq (alike : value.Alike other) : value.isTrue = other.isTrue := by
  cases alike with
  | @whole n x whole =>
    -- Zero is the only integer that does not count as true.
    have number : x ≠ .nan := by
      obtain ⟨m, rfl, -⟩ := whole
      exact nofun
    rw [Bool.eq_iff_iff]
    simp [isTrue, number, ← Bool.not_eq_true, whole.isZero_iff, ← Int64.toInt_inj]
  | _ => rfl

/-- Values that are alike are known without a call. -/
theorem Alike.resolve_eq (alike : value.Alike other) :
    value.resolve = pure value ∧ other.resolve = pure other := by
  -- Only a deferred value is called, and none is alike to another.
  cases alike <;> exact ⟨rfl, rfl⟩

/-- What is found in the same place of both sides is alike when everything is like itself. -/
theorem rel_self {α : Type} {alike : α → α → Prop} (self : ∀ a, alike a a) (found : Option α) :
    Option.Rel alike found found := by
  cases found with
  | none => exact .none
  | some a => exact .some (self a)

/-- Values that are alike stand for numbers that are alike, or for none. -/
theorem Alike.number? (alike : value.Alike other) :
    Option.Rel Number.Alike value.number? other.number? := by
  cases alike with
  -- Only here do the numbers differ.
  | whole whole small => exact .some (.whole whole small)
  | null | list | map => exact .none
  | _ => exact rel_self .refl _

/-- Values that are alike have integer parts of numbers that are alike, or none. -/
theorem Alike.integer? (alike : value.Alike other) :
    Option.Rel Number.Alike value.integer? other.integer? := by
  -- Texts are the same, and from other values the number itself is taken.
  cases alike with
  | text s => exact rel_self .refl _
  | whole whole small => exact .some (.whole whole small)
  | null | list | map => exact .none
  | _ => exact rel_self .refl _

/-- Lists that are alike are of the same length. -/
theorem AlikeItems.length_eq {items others : List Value} (each : AlikeItems items others) :
    items.length = others.length := by
  -- Each item has its counterpart.
  cases each with
  | nil => rfl
  | cons _ rest => rw [List.length_cons, List.length_cons, rest.length_eq]

/-- Lists that are alike have items that are alike at each index. -/
theorem AlikeItems.getElem? {items others : List Value} (each : AlikeItems items others)
    (index : Nat) : Option.Rel Alike items[index]? others[index]? := by
  -- The same count of items stands in front on both sides.
  cases each with
  | nil => exact .none
  | cons first rest =>
    cases index with
    | zero => exact .some first
    | succ index => exact rest.getElem? index

/-- Entries that are alike have values that are alike under each name. -/
theorem AlikeEntries.get? {entries others : List (String × Value)}
    (each : AlikeEntries entries others) (key : String) :
    Option.Rel Alike (Entries.get? entries key) (Entries.get? others key) := by
  cases each with
  | nil => exact .none
  | @cons name _ _ _ _ first rest =>
    simp only [Entries.get?, List.lookup_cons]
    -- The names are the same on both sides, so the search ends at the same entry.
    split
    · exact .some first
    · exact rest.get? key

/-- A step leads from values that are alike to values that are alike, or nowhere from both. -/
theorem Alike.child? (alike : value.Alike other) (segment : Segment) :
    Option.Rel Alike (value.child? segment) (other.child? segment) := by
  -- A step is a name or an index, and each kind of value has its own parts.
  cases segment with
  | field name =>
    cases alike with
    | map each => exact each.get? name
    | list each =>
      -- A list has its length for a field.
      simp only [child?, field?, each.length_eq]
      split
      · exact .some (.number _)
      · exact .none
    | text s =>
      simp only [child?, field?]
      split
      · exact .some (.number _)
      · exact .none
    | _ => exact .none
  | element index =>
    cases alike with
    | map each => exact each.get? _
    | list each => exact each.getElem? index
    | text s =>
      simp only [child?, element?]
      cases s.toList[index]? with
      | none => exact .none
      | some c => exact .some (.text _)
    | _ => exact .none

mutual

/-- Values that are alike have the same document. -/
theorem Alike.toJson_eq {value other : Value} (alike : Alike value other) :
    value.toJson = other.toJson := by
  cases alike with
  | null | bool | int | float | text => rfl
  | whole whole small =>
    -- A floating point number that is exactly an integer is dumped as one.
    simp only [toJson, floatJson, whole.exactInteger?_eq small]
  | list each => rw [toJson, toJson, each.jsonItems_eq]
  | map each => rw [toJson, toJson, each.jsonMembers_eq]

/-- Lists that are alike have the same documents. -/
theorem AlikeItems.jsonItems_eq {items others : List Value} (each : AlikeItems items others) :
    jsonItems items = jsonItems others := by
  -- Item by item, the documents are the same.
  cases each with
  | nil => rfl
  | cons first rest => rw [jsonItems, jsonItems, first.toJson_eq, rest.jsonItems_eq]

/-- Entries that are alike have the same members. -/
theorem AlikeEntries.jsonMembers_eq {entries others : List (String × Value)}
    (each : AlikeEntries entries others) : jsonMembers entries = jsonMembers others := by
  -- Names are the same, and so are the documents behind them.
  cases each with
  | nil => rfl
  | cons first rest => rw [jsonMembers, jsonMembers, first.toJson_eq, rest.jsonMembers_eq]

end

/-- Values that are alike are dumped the same. -/
theorem Alike.dump_eq (alike : value.Alike other) (indent : Nat) :
    value.dump indent = other.dump indent := by
  -- A dump is written from the document alone.
  rw [dump, dump, alike.toJson_eq]

mutual

/-- Values that are alike are shown the same. -/
theorem Alike.display_eq {value other : Value} (alike : Alike value other) :
    value.display = other.display := by
  cases alike with
  | null | bool | int | float | text => rfl
  -- An integer and the floating point number of it have the same text.
  | whole whole small => rw [display, display, Number.text, whole.text_eq small]
  | list each => rw [display, display, each.displayItems_eq]
  | map each => rw [display, display, (Alike.map each).toJson_eq]

/-- Lists that are alike show the same texts. -/
theorem AlikeItems.displayItems_eq {items others : List Value} (each : AlikeItems items others) :
    displayItems items = displayItems others := by
  cases each with
  | nil => rfl
  | cons first rest =>
    have shown := first.display_eq
    have more := rest.displayItems_eq
    -- Only null is not shown as it is alone.
    cases first with
    | null => rw [displayItems, displayItems, more]
    | _ => rw [displayItems, displayItems, shown, more] <;> exact nofun

end

end Value

end TextTemplate
