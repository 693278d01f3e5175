import TextTemplate.Proofs.Entries
import TextTemplate.Proofs.Template.Rendering

/-! A step leads from a value to one of its parts, and a path from part to part. -/

namespace TextTemplate

/-- Whether a kind of value has parts that a step could lead to. -/
def Kind.hasParts : Kind → Bool
  | .string | .array | .object => true
  | .null | .boolean | .number | .function => false

namespace Value

/-- What is one step away from a value: an entry of a map, an item of a list, a character of a text,
or the length of a list or text. -/
inductive IsPart : Value → Segment → Value → Prop where
  /-- The entry under a name is the first one that has it. -/
  | entry {front back : List (String × Value)} {name : String} {part : Value} :
      name ∉ Entries.keys front →
      IsPart (.map (front ++ (name, part) :: back)) (.field name) part
  /-- A number leads to the entry whose name is its decimal text. -/
  | numbered {front back : List (String × Value)} {index : Nat} {part : Value} :
      String.ofList (Nat.toDigits 10 index) ∉ Entries.keys front →
      IsPart (.map (front ++ (String.ofList (Nat.toDigits 10 index), part) :: back))
        (.element index) part
  | item {items : List Value} {index : Nat} (inside : index < items.length) :
      IsPart (.list items) (.element index) items[index]
  | character {s : String} {index : Nat} (inside : index < s.toList.length) :
      IsPart (.text s) (.element index) (.text (String.singleton s.toList[index]))
  | items {items : List Value} : IsPart (.list items) (.field "length") (.ofInt items.length)
  | characters {s : String} : IsPart (.text s) (.field "length") (.ofInt s.toList.length)

/-- What several steps lead to, one after the other. -/
inductive Reaches : Value → List Segment → Value → Prop where
  | here {value : Value} : Reaches value [] value
  | step {value part last : Value} {segment : Segment} {segments : List Segment} :
      value.IsPart segment part → Reaches part segments last →
      Reaches value (segment :: segments) last

variable {value part last : Value} {segment : Segment} {segments : List Segment}

/-- A name leads to a part exactly where the part is one step away. -/
theorem field?_eq_some_iff {name : String} :
    value.field? name = some part ↔ value.IsPart (.field name) part := by
  constructor
  · intro found
    cases value with
    | map entries =>
      -- The entry that is found is the first with the name.
      obtain ⟨front, back, rfl, absent⟩ := Entries.get?_eq_some_iff.mp found
      exact .entry absent
    | list items =>
      -- Only its length has a name.
      simp only [field?] at found
      split at found
      · rename_i length
        cases found
        rw [length]
        exact .items
      · contradiction
    | text s =>
      -- Its length counts its characters, not their bytes.
      simp only [field?] at found
      split at found
      · rename_i length
        cases found
        rw [length, ← String.length_toList]
        exact .characters
      · contradiction
    | _ => contradiction
  · intro isPart
    cases isPart with
    | entry absent => exact Entries.get?_eq_some_iff.mpr ⟨_, _, rfl, absent⟩
    | items => rfl
    | characters =>
      rw [String.length_toList]
      rfl

/-- A number leads to a part exactly where the part is one step away. -/
theorem element?_eq_some_iff {index : Nat} :
    value.element? index = some part ↔ value.IsPart (.element index) part := by
  constructor
  · intro found
    cases value with
    | map entries =>
      -- A map is asked for the decimal text of the number.
      obtain ⟨front, back, rfl, absent⟩ := Entries.get?_eq_some_iff.mp found
      exact .numbered absent
    | list items =>
      obtain ⟨inside, rfl⟩ := List.getElem?_eq_some_iff.mp found
      exact .item inside
    | text s =>
      -- The character is found first, and is a text of its own.
      simp only [element?, Option.map_eq_some_iff] at found
      obtain ⟨c, found, rfl⟩ := found
      obtain ⟨inside, rfl⟩ := List.getElem?_eq_some_iff.mp found
      exact .character inside
    | _ => contradiction
  · intro isPart
    cases isPart with
    | numbered absent => exact Entries.get?_eq_some_iff.mpr ⟨_, _, rfl, absent⟩
    | item inside => exact List.getElem?_eq_getElem inside
    | character inside =>
      simp only [element?, List.getElem?_eq_getElem inside, Option.map_some]
      rfl

/-- A step leads to a part exactly where the part is one step away. -/
theorem child?_eq_some_iff : value.child? segment = some part ↔ value.IsPart segment part := by
  cases segment with
  | field name => exact field?_eq_some_iff
  | element index => exact element?_eq_some_iff

/-- A step leads nowhere exactly where it has no part. -/
theorem child?_eq_none_iff : value.child? segment = none ↔ ∀ part, ¬value.IsPart segment part := by
  rw [Option.eq_none_iff_forall_ne_some]
  simp only [ne_eq, child?_eq_some_iff]

/-- Steps lead to a value exactly where they reach it from part to part. -/
theorem leads_iff : value.Leads segments last ↔ value.Reaches segments last := by
  induction segments generalizing value with
  | nil =>
    constructor
    · intro leads
      cases leads
      exact .here
    · intro reaches
      cases reaches
      rfl
  | cons segment segments ih =>
    -- The first step finds a part, from which the others go on.
    simp only [Leads, List.foldlM_cons, Option.bind_eq_bind, Option.bind_eq_some_iff,
      child?_eq_some_iff]
    constructor
    · intro leads
      obtain ⟨part, isPart, onward⟩ := leads
      exact .step isPart (ih.mp onward)
    · intro reaches
      cases reaches with
      | step isPart onward => exact ⟨_, isPart, ih.mpr onward⟩

/-- What has a part is a text, a list or a map. -/
theorem IsPart.hasParts (isPart : value.IsPart segment part) : value.kind.hasParts := by
  cases isPart <;> rfl

end Value

end TextTemplate
