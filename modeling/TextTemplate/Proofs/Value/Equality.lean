import Mathlib.Data.List.Nodup
import Mathlib.Data.List.Perm.Subperm
import TextTemplate.Proofs.Number.Sign
import TextTemplate.Proofs.Value.Members

/-! Equality of values is symmetric and transitive, and a value is equal to itself unless it holds
what is not a number. The order of the entries of maps does not matter. -/

namespace TextTemplate

/-- Two numbers are the same when they are one number or both are zeros. -/
theorem Binary64.same_iff {x y : Binary64} :
    x.same y ↔ x ≠ .nan ∧ (x = y ∨ x.isZero ∧ y.isZero) := by
  -- Two infinities are compared by their signs, and finite numbers by sign and magnitude.
  cases x with
  | nan => simp [same]
  | infinite negative => cases y <;> simp [same, isZero]
  | finite negative m =>
    cases y with
    | nan => simp [same, isZero]
    | infinite => simp [same, isZero]
    | finite sign n =>
      simp only [same, isZero, Bool.and_eq_true, Bool.or_eq_true, decide_eq_true_eq, ne_eq,
        reduceCtorEq, not_false_eq_true, true_and, Binary64.finite.injEq]
      constructor
      · rintro ⟨rfl, rfl | zero⟩
        · exact .inl ⟨rfl, rfl⟩
        · exact .inr ⟨zero, zero⟩
      · rintro (⟨rfl, rfl⟩ | ⟨zero, also⟩)
        · exact ⟨rfl, .inl rfl⟩
        · -- There is one magnitude without a significand.
          rw [Magnitude.eq_zero zero, Magnitude.eq_zero also]
          exact ⟨rfl, .inr rfl⟩

/-- Numbers are the same from both sides. -/
theorem Binary64.same_symm {x y : Binary64} (same : x.same y) : y.same x := by
  obtain ⟨real, rfl | ⟨zero, also⟩⟩ := same_iff.mp same
  · exact same
  · -- What has no magnitude is a number.
    refine same_iff.mpr ⟨?_, .inr ⟨also, zero⟩⟩
    rintro rfl
    cases also

/-- Numbers that are the same as one between them are the same. -/
theorem Binary64.same_trans {x y z : Binary64} (front : x.same y) (back : y.same z) :
    x.same z := by
  -- The number between is the same as one of the others, or all three are zeros.
  obtain ⟨real, rfl | ⟨zero, also⟩⟩ := same_iff.mp front
  · exact back
  · obtain ⟨-, rfl | ⟨-, last⟩⟩ := same_iff.mp back
    · exact front
    · exact same_iff.mpr ⟨real, .inr ⟨zero, last⟩⟩

namespace Value

/-- Whether something that is not a number occurs in a value, in lists and maps at any depth. -/
inductive HoldsNan : Value → Prop where
  | here : HoldsNan (.float .nan)
  | item {items : List Value} {item : Value} (member : item ∈ items) (inside : HoldsNan item) :
    HoldsNan (.list items)
  | entry {entries : List (String × Value)} {entry : String × Value} (member : entry ∈ entries)
    (inside : HoldsNan entry.2) : HoldsNan (.map entries)

theorem holdsNan_float_iff {x : Binary64} : (Value.float x).HoldsNan ↔ x = .nan := by
  constructor
  -- A floating point number holds nothing but itself.
  · rintro ⟨⟩
    rfl
  · rintro rfl
    exact .here

theorem holdsNan_list_iff {items : List Value} :
    (Value.list items).HoldsNan ↔ ∃ item ∈ items, item.HoldsNan := by
  constructor
  -- What occurs in a list occurs in an item.
  · rintro (_ | ⟨member, inside⟩)
    exact ⟨_, member, inside⟩
  · rintro ⟨item, member, inside⟩
    exact .item member inside

theorem holdsNan_map_iff {entries : List (String × Value)} :
    (Value.map entries).HoldsNan ↔ ∃ entry ∈ entries, entry.2.HoldsNan := by
  constructor
  -- What occurs in a map occurs in the value of an entry.
  · rintro (_ | _ | ⟨member, inside⟩)
    exact ⟨_, member, inside⟩
  · rintro ⟨entry, member, inside⟩
    exact .entry member inside

mutual

/-- Two values that are the same but for the order of the entries of maps, at any depth. -/
inductive Reordered : Value → Value → Prop where
  | refl (value : Value) : Reordered value value
  | list {items others : List Value} (each : ReorderedItems items others) :
    Reordered (.list items) (.list others)
  /-- Entries change places, and their values may be reordered too. -/
  | map {entries others moved : List (String × Value)} (each : ReorderedEntries entries others)
    (moves : others.Perm moved) : Reordered (.map entries) (.map moved)

/-- Two lists with items that are the same but for that, in order. -/
inductive ReorderedItems : List Value → List Value → Prop where
  | nil : ReorderedItems [] []
  | cons {item other : Value} {items others : List Value} (first : Reordered item other)
    (rest : ReorderedItems items others) : ReorderedItems (item :: items) (other :: others)

/-- Two rows of entries with the same names and values that are the same but for that. -/
inductive ReorderedEntries : List (String × Value) → List (String × Value) → Prop where
  | nil : ReorderedEntries [] []
  | cons {key : String} {value other : Value} {entries others : List (String × Value)}
    (first : Reordered value other) (rest : ReorderedEntries entries others) :
    ReorderedEntries ((key, value) :: entries) ((key, other) :: others)

end

section Places

variable {α : Type} {r : α → α → Prop} {left middle right : Option α}

/-- Nothing is found in two places, or something in both of them. -/
theorem rel_none_iff (both : Option.Rel r left right) : left = none ↔ right = none := by
  cases both <;> simp

/-- What is found in one of two places is related to what is found in the other. -/
theorem rel_found (both : Option.Rel r left right) {a : α} (found : left = some a) :
    ∃ b, right = some b ∧ r a b := by
  -- Nothing is found on both sides, or something.
  cases both with
  | none => contradiction
  | some related =>
    cases found
    exact ⟨_, rfl, related⟩

/-- What is found in two places is related the other way round where each pair is. -/
theorem rel_flip (both : Option.Rel r left right)
    (turn : ∀ a, left = some a → ∀ b, right = some b → r a b → r b a) :
    Option.Rel r right left := by
  cases both with
  | none => exact .none
  | some related => exact .some (turn _ rfl _ rfl related)

/-- What is found in three places is related from end to end where each row of three is. -/
theorem rel_chain (front : Option.Rel r left middle) (back : Option.Rel r middle right)
    (chain : ∀ a, left = some a → ∀ b, middle = some b → ∀ c, right = some c →
      r a b → r b c → r a c) : Option.Rel r left right := by
  -- What is found in the middle is found at both ends.
  cases front with
  | none =>
    cases back
    exact .none
  | some first =>
    cases back with
    | some second => exact .some (chain _ rfl _ rfl _ rfl first second)

/-- What is found is related to itself exactly where each thing that is found is. -/
theorem rel_self_iff : Option.Rel r left left ↔ ∀ a, left = some a → r a a := by
  cases left with
  | none => simp [Option.rel_none_none]
  | some a => simp

end Places

section Equal

variable {items others : List Value} {entries fields : List (String × Value)}

/-- What is found in a place of two values is equal, or nothing is found in either. -/
abbrev SameFound (left right : Option Value) : Prop :=
  Option.Rel (fun value other => value.same other) left right

/-- Lists are equal when they have equal items at each index, or none in either. -/
theorem sameItems_iff :
    sameItems items others ↔ ∀ index : Nat, SameFound items[index]? others[index]? := by
  induction items generalizing others with
  | nil =>
    cases others with
    | nil => simp [sameItems]
    | cons other others =>
      -- The first item of the longer list has no partner.
      refine iff_of_false (by simp [sameItems]) fun each => ?_
      cases each 0
  | cons item items ih =>
    cases others with
    | nil =>
      refine iff_of_false (by simp [sameItems]) fun each => ?_
      cases each 0
    | cons other others =>
      rw [sameItems, Bool.and_eq_true, ih]
      constructor
      -- The first index is that of the first items.
      · rintro ⟨first, rest⟩ index
        cases index with
        | zero => exact .some first
        | succ index => exact rest index
      · intro each
        refine ⟨?_, fun index => each (index + 1)⟩
        cases each 0 with
        | some first => exact first

/-- Each entry has an equal one when its name is found with an equal value. -/
theorem sameEntries_iff :
    sameEntries entries fields ↔
      ∀ entry ∈ entries, ∃ other,
        Entries.get? fields entry.1 = some other ∧ entry.2.same other := by
  induction entries with
  | nil => simp [sameEntries]
  | cons entry entries ih =>
    -- Whether the name is found decides about the first entry.
    rw [sameEntries, Bool.and_eq_true, ih, List.forall_mem_cons]
    cases Entries.get? fields entry.1 <;> simp

/-- Maps with distinct names are equal when they have equal values under each name, or none in
either. -/
theorem same_map_iff (distinct : (Entries.keys entries).Nodup)
    (apart : (Entries.keys fields).Nodup) :
    (Value.map entries).same (.map fields) ↔
      ∀ key, SameFound (Entries.get? entries key) (Entries.get? fields key) := by
  rw [same, Bool.and_eq_true, decide_eq_true_eq, sameEntries_iff]
  constructor
  -- A name of the first map is found in the second. The count excludes that there are more.
  · rintro ⟨size, each⟩ key
    cases found : Entries.get? entries key with
    | some value =>
      obtain ⟨other, also, same⟩ := each (key, value) (Entries.mem_of_get? found)
      rw [also]
      exact .some same
    | none =>
      -- As many names that are all found leave no other name.
      have names : Entries.keys entries ⊆ Entries.keys fields := by
        intro name member
        obtain ⟨entry, inside, rfl⟩ := List.mem_map.mp member
        obtain ⟨other, also, -⟩ := each entry inside
        exact List.mem_map.mpr ⟨_, Entries.mem_of_get? also, rfl⟩
      have all : (Entries.keys entries).Perm (Entries.keys fields) :=
        (List.subperm_of_subset distinct names).perm_of_length_le
          (by simp [Entries.keys, size])
      have absent : Entries.get? fields key = none :=
        Entries.get?_eq_none_iff.mpr fun member =>
          Entries.get?_eq_none_iff.mp found (all.mem_iff.mpr member)
      rw [absent]
      exact .none
  · intro each
    -- A name is in one map exactly where it is in the other.
    have names : ∀ key, key ∈ Entries.keys entries ↔ key ∈ Entries.keys fields := by
      intro key
      rw [← not_iff_not, ← Entries.get?_eq_none_iff, ← Entries.get?_eq_none_iff]
      exact rel_none_iff (each key)
    have all := (List.perm_ext_iff_of_nodup distinct apart).mpr names
    refine ⟨by simpa [Entries.keys] using all.length_eq, fun entry member => ?_⟩
    exact rel_found (each entry.1) (Entries.get?_of_mem distinct member)

end Equal

section Laws

variable {value other third : Value}

/-- The items of a list without repeated names have none. -/
theorem HasDistinctKeys.item {items : List Value} (distinct : (Value.list items).HasDistinctKeys)
    {index : Nat} {item : Value} (found : items[index]? = some item) : item.HasDistinctKeys :=
  -- An item that is found is one of the list.
  haveDistinctKeys_iff.mp distinct item (List.mem_of_getElem? found)

/-- The values of a map without repeated names have none. -/
theorem HasDistinctKeys.entry {entries : List (String × Value)}
    (distinct : (Value.map entries).HasDistinctKeys) {key : String} {value : Value}
    (found : Entries.get? entries key = some value) : value.HasDistinctKeys :=
  -- A value that is found is that of an entry.
  holdDistinctKeys_iff.mp distinct.2 (key, value) (Entries.mem_of_get? found)

/-- Values are equal from both sides. -/
theorem same_symm (distinct : value.HasDistinctKeys) (apart : other.HasDistinctKeys)
    (same : value.same other) : other.same value := by
  induction value using member_induction generalizing other with
  -- Lists are compared index by index, so that the items can change sides.
  | list items ih =>
    cases other with
    | list others =>
      refine sameItems_iff.mpr fun index => rel_flip (sameItems_iff.mp same index) ?_
      intro item found also known equal
      exact ih item (List.mem_of_getElem? found) (distinct.item found) (apart.item known) equal
    | _ => cases same
  | map entries ih =>
    cases other with
    | map fields =>
      -- Lookups under each name do not tell the two sides apart, unlike the search for entries.
      rw [same_map_iff apart.1 distinct.1]
      rw [same_map_iff distinct.1 apart.1] at same
      refine fun key => rel_flip (same key) ?_
      intro field found also known equal
      exact ih _ (Entries.mem_of_get? found) (distinct.entry found) (apart.entry known) equal
    | _ => cases same
  -- Numbers are the same from both sides.
  | float x =>
    cases other with
    | float y => exact Binary64.same_symm same
    | _ => cases same
  | _ => cases other <;> simp_all [Value.same]

/-- Values that are equal to one between them are equal. -/
theorem same_trans (distinct : value.HasDistinctKeys) (between : other.HasDistinctKeys)
    (apart : third.HasDistinctKeys) (front : value.same other) (back : other.same third) :
    value.same third := by
  induction value using member_induction generalizing other third with
  -- Items with one index are equal in a row of three.
  | list items ih =>
    cases other with
    | list others =>
      cases third with
      | list last =>
        refine sameItems_iff.mpr fun index =>
          rel_chain (sameItems_iff.mp front index) (sameItems_iff.mp back index) ?_
        intro item found middle known final ends
        exact ih item (List.mem_of_getElem? found) (distinct.item found) (between.item known)
          (apart.item ends)
      | _ => cases back
    | _ => cases front
  -- Under each name three values are found, or none in any of the maps.
  | map entries ih =>
    cases other with
    | map fields =>
      cases third with
      | map last =>
        rw [same_map_iff distinct.1 between.1] at front
        rw [same_map_iff between.1 apart.1] at back
        rw [same_map_iff distinct.1 apart.1]
        refine fun key => rel_chain (front key) (back key) ?_
        intro field found middle known final ends
        exact ih _ (Entries.mem_of_get? found) (distinct.entry found) (between.entry known)
          (apart.entry ends)
      | _ => cases back
    | _ => cases front
  -- Zeros of either sign are the same.
  | float x =>
    cases other with
    | float y =>
      cases third with
      | float z => exact Binary64.same_trans front back
      | _ => cases back
    | _ => cases front
  | _ => cases other <;> cases third <;> simp_all [Value.same]

/-- A value is equal to itself unless something that is not a number occurs in it. -/
theorem same_self_iff (distinct : value.HasDistinctKeys) : value.same value ↔ ¬value.HoldsNan := by
  induction value using member_induction with
  -- Each item is compared with itself.
  | list items ih =>
    rw [same, sameItems_iff]
    simp only [rel_self_iff, holdsNan_list_iff, not_exists, not_and]
    constructor
    · intro each item member
      obtain ⟨index, found⟩ := List.getElem?_of_mem member
      exact (ih item member (distinct.item found)).mp (each index item found)
    · intro free index item found
      have member := List.mem_of_getElem? found
      exact (ih item member (distinct.item found)).mpr (free item member)
  -- A name that stands once is found with its own value, which is compared with itself.
  | map entries ih =>
    rw [same_map_iff distinct.1 distinct.1]
    simp only [rel_self_iff, holdsNan_map_iff, not_exists, not_and]
    constructor
    · intro each entry member
      have found : Entries.get? entries entry.1 = some entry.2 :=
        Entries.get?_of_mem distinct.1 member
      exact (ih entry member (distinct.entry found)).mp (each entry.1 entry.2 found)
    · intro free key field found
      have member := Entries.mem_of_get? found
      exact (ih _ member (distinct.entry found)).mpr (free _ member)
  | float x =>
    rw [same, Binary64.same_iff, holdsNan_float_iff]
    simp
  | _ => exact iff_of_true (by simp [same]) nofun

/-- Entries that are reordered inside are the same entries but for their values. -/
theorem ReorderedEntries.exists_entry {entries others : List (String × Value)}
    (each : ReorderedEntries entries others) {entry : String × Value} (member : entry ∈ entries) :
    ∃ other, (entry.1, other) ∈ others ∧ entry.2.Reordered other := by
  -- The rows go on together, and each entry has its partner in the same place.
  cases each with
  | nil => cases member
  | cons first rest =>
    rcases List.mem_cons.mp member with rfl | member
    · exact ⟨_, List.mem_cons_self, first⟩
    · obtain ⟨other, also, moved⟩ := rest.exists_entry member
      exact ⟨other, List.mem_cons_of_mem _ also, moved⟩

/-- Entries that are reordered inside keep their names. -/
theorem ReorderedEntries.keys_eq {entries others : List (String × Value)}
    (each : ReorderedEntries entries others) : Entries.keys others = Entries.keys entries := by
  cases each with
  | nil => rfl
  | cons _ rest => rw [Entries.keys_cons, Entries.keys_cons, rest.keys_eq]

/-- Items that are reordered inside have equal items where each value is equal to its reordering. -/
theorem ReorderedItems.sameItems {items others : List Value} (each : ReorderedItems items others)
    (equal : ∀ item ∈ items, ∀ other, item.Reordered other → item.same other) :
    sameItems items others := by
  -- The items are compared in order, and so they are reordered.
  cases each with
  | nil => rfl
  | cons first rest =>
    rw [List.forall_mem_cons] at equal
    rw [Value.sameItems, Bool.and_eq_true]
    exact ⟨equal.1 _ first, rest.sameItems equal.2⟩

/-- A value in which everything is a number is equal to itself with entries of maps reordered. -/
theorem Reordered.same (moved : value.Reordered other) (distinct : value.HasDistinctKeys)
    (free : ¬value.HoldsNan) : value.same other := by
  induction value using member_induction generalizing other with
  | list items ih =>
    cases moved with
    | refl => exact (same_self_iff distinct).mpr free
    | list each =>
      refine each.sameItems fun item member other moved => ?_
      exact ih item member moved (haveDistinctKeys_iff.mp distinct item member)
        fun inside => free (.item member inside)
  | map entries ih =>
    cases moved with
    | refl => exact (same_self_iff distinct).mpr free
    | @map _ others fields each moves =>
      -- The names are the same, so that each entry is found where it went.
      have names : (Entries.keys entries).Perm (Entries.keys fields) :=
        each.keys_eq ▸ moves.map Prod.fst
      rw [Value.same, Bool.and_eq_true, decide_eq_true_eq, sameEntries_iff]
      refine ⟨by simpa [Entries.keys] using names.length_eq, fun entry member => ?_⟩
      obtain ⟨other, also, moved⟩ := each.exists_entry member
      refine ⟨other, Entries.get?_of_mem (names.nodup distinct.1) (moves.mem_iff.mp also), ?_⟩
      exact ih entry member moved (holdDistinctKeys_iff.mp distinct.2 entry member)
        fun inside => free (.entry member inside)
  -- No other value can be reordered.
  | _ =>
    cases moved
    exact (same_self_iff distinct).mpr free

/-- Equality of values is a partial equivalence, and what is not a number is its only gap.

It is symmetric and transitive, and a value is equal to itself exactly where no such thing occurs in
it, the results of deferred values apart. Maps are equal when they have equal values under the same
names, in any order, so that such a value stays equal to itself when entries of maps are reordered
at any depth. -/
theorem same_partial_equivalence (distinct : value.HasDistinctKeys)
    (between : other.HasDistinctKeys) (apart : third.HasDistinctKeys) :
    (value.same other → other.same value) ∧
      (value.same other → other.same third → value.same third) ∧
      (value.same value ↔ ¬value.HoldsNan) ∧
      (∀ entries fields, value = .map entries → other = .map fields →
        (value.same other ↔
          ∀ key, SameFound (Entries.get? entries key) (Entries.get? fields key))) ∧
      ∀ moved, value.Reordered moved → ¬value.HoldsNan → value.same moved := by
  -- Each law has a lemma of its own.
  refine ⟨same_symm distinct between, same_trans distinct between apart, same_self_iff distinct,
    ?_, fun moved reordered free => reordered.same distinct free⟩
  rintro entries fields rfl rfl
  exact same_map_iff distinct.1 between.1

/-- A map in a list in a map whose entries stand in the other order, with both zeros, and a deferred
value that would yield what is not a number. -/
theorem same_partial_equivalence_nested :
    let zero (negative : Bool) : Value := .float (.finite negative .zero)
    let later : Value := .deferred 7 [] (.float .nan)
    let first : Value :=
      .map [("a", .list [.map [("x", zero false), ("y", .int 1)], .null]), ("b", later)]
    let second : Value :=
      .map [("b", later), ("a", .list [.map [("y", .int 1), ("x", zero false)], .null])]
    let third : Value :=
      .map [("b", later), ("a", .list [.map [("x", zero true), ("y", .int 1)], .null])]
    first.HasDistinctKeys ∧ second.HasDistinctKeys ∧ third.HasDistinctKeys ∧
      first.Reordered second ∧ first.same first ∧ first.same second ∧ second.same third ∧
      second.same first ∧ first.same third := by
  intro zero later first second third
  have distinct : first.HasDistinctKeys := by
    simp [first, zero, later, HasDistinctKeys, HaveDistinctKeys, HoldDistinctKeys]
  have between : second.HasDistinctKeys := by
    simp [second, zero, later, HasDistinctKeys, HaveDistinctKeys, HoldDistinctKeys]
  have apart : third.HasDistinctKeys := by
    simp [third, zero, later, HasDistinctKeys, HaveDistinctKeys, HoldDistinctKeys]
  -- Both maps are reordered, the one in the list first.
  have moved : first.Reordered second :=
    .map (.cons (.list (.cons (.map (.cons (.refl _) (.cons (.refl _) .nil)) (.swap _ _ _))
      (.cons (.refl _) .nil))) (.cons (.refl _) .nil)) (.swap _ _ _)
  have itself : first.same first := by decide
  have back : second.same third := by decide
  obtain ⟨symm, trans, self, -, reordered⟩ := same_partial_equivalence distinct between apart
  have front := reordered second moved (self.mp itself)
  exact ⟨distinct, between, apart, moved, itself, front, back, symm front, trans front back⟩

end Laws

end Value

end TextTemplate
