import TextTemplate.Document.Yaml
import TextTemplate.Proofs.Document.Agreement
import TextTemplate.Proofs.Value.Deferred

/-! A mapping becomes a map under the texts of its keys, and the tags of a document are not seen. -/

namespace TextTemplate.Yaml

/-- What holds of a sequence, of a mapping and of what is tagged when it holds of all documents in
it holds of every document. -/
@[elab_as_elim]
theorem part_induction {motive : Yaml → Prop} (null : motive .null) (bool : ∀ b, motive (.bool b))
    (int : ∀ n, motive (.int n)) (float : ∀ x, motive (.float x))
    (string : ∀ s, motive (.string s))
    (sequence : ∀ items, (∀ item ∈ items, motive item) → motive (.sequence items))
    (mapping : ∀ pairs, (∀ pair ∈ pairs, motive pair.1 ∧ motive pair.2) → motive (.mapping pairs))
    (tagged : ∀ tag document, motive document → motive (.tagged tag document)) (document : Yaml) :
    motive document :=
  -- The statement on lists is that it holds of each part.
  @Yaml.rec motive (fun items => ∀ item ∈ items, motive item)
    (fun pairs => ∀ pair ∈ pairs, motive pair.1 ∧ motive pair.2)
    (fun pair => motive pair.1 ∧ motive pair.2)
    null bool int float string sequence mapping tagged
    nofun (fun _ _ first rest => List.forall_mem_cons.mpr ⟨first, rest⟩)
    nofun (fun _ _ first rest => List.forall_mem_cons.mpr ⟨first, rest⟩)
    (fun _ _ key value => ⟨key, value⟩) document

mutual

/-- A document without its tags, at every depth and also in keys.

The pairs of a mapping stay apart, even where their keys are no longer told apart. -/
def bare : Yaml → Yaml
  | .sequence items => .sequence (bareItems items)
  | .mapping pairs => .mapping (barePairs pairs)
  | .tagged _ document => document.bare
  | scalar => scalar

/-- Several documents without their tags. -/
def bareItems : List Yaml → List Yaml
  | [] => []
  | item :: items => item.bare :: bareItems items

/-- Several pairs without their tags. -/
def barePairs : List (Yaml × Yaml) → List (Yaml × Yaml)
  | [] => []
  | (key, value) :: pairs => (key.bare, value.bare) :: barePairs pairs

end

mutual

/-- A document in which the pairs of each mapping with the same key are merged, from the inside. -/
def merged : Yaml → Yaml
  | .sequence items => .sequence (mergedItems items)
  | .mapping pairs => .ofPairs (mergedPairs pairs)
  | .tagged tag document => .tagged tag document.merged
  | scalar => scalar

/-- Several documents in which pairs are merged. -/
def mergedItems : List Yaml → List Yaml
  | [] => []
  | item :: items => item.merged :: mergedItems items

/-- Several pairs of documents in which pairs are merged. -/
def mergedPairs : List (Yaml × Yaml) → List (Yaml × Yaml)
  | [] => []
  | (key, value) :: pairs => (key.merged, value.merged) :: mergedPairs pairs

end

/-- The documents that are in a document at any depth, keys among them, and the document itself. -/
inductive Holds : Yaml → Yaml → Prop where
  | here (document : Yaml) : Holds document document
  | item {items : List Yaml} {item part : Yaml} (member : item ∈ items) (inside : Holds item part) :
    Holds (.sequence items) part
  | key {pairs : List (Yaml × Yaml)} {pair : Yaml × Yaml} {part : Yaml} (member : pair ∈ pairs)
    (inside : Holds pair.1 part) : Holds (.mapping pairs) part
  | value {pairs : List (Yaml × Yaml)} {pair : Yaml × Yaml} {part : Yaml} (member : pair ∈ pairs)
    (inside : Holds pair.2 part) : Holds (.mapping pairs) part
  | tagged {tag : String} {document part : Yaml} (inside : Holds document part) :
    Holds (.tagged tag document) part

/-- The name that a key has in a map. -/
def label (key : Yaml) : String :=
  keyText key.toValue

/-- A key that is text is its own name, and any other has the text that its value is shown as. -/
inductive IsLabel : Yaml → String → Prop where
  | string (s : String) : IsLabel (.string s) s
  | shown {key : Yaml} {name : String} (other : ∀ s, key ≠ .string s)
    (shows : ∀ before, key.toValue.display.outcome before = (name.toList, before)) :
    IsLabel key name

/-- Keys of which the same ones have one name, which no other key between two of them has. -/
def AreSettled (keys : List Yaml) : Prop :=
  ∀ front first between last back, keys = front ++ first :: (between ++ last :: back) →
    first.sameKey last →
      first.label = last.label ∧ ∀ key ∈ between, key.label = last.label → first.sameKey key

section Lists

/-- The values of items are taken one by one. -/
theorem itemValues_eq (items : List Yaml) : itemValues items = items.map toValue := by
  -- The definition goes through the items one by one.
  induction items with
  | nil => rfl
  | cons item items ih => rw [itemValues, ih, List.map_cons]

/-- The values of pairs are taken one by one, under the names of their keys. -/
theorem pairValues_eq (pairs : List (Yaml × Yaml)) :
    pairValues pairs = pairs.map fun pair => (pair.1.label, pair.2.toValue) := by
  -- A pair is taken under the name that its key has as a value.
  induction pairs with
  | nil => rfl
  | cons pair pairs ih => rw [pairValues, ih, List.map_cons, label]

theorem bareItems_eq (items : List Yaml) : bareItems items = items.map bare := by
  induction items with
  | nil => rfl
  | cons item items ih => rw [bareItems, ih, List.map_cons]

theorem barePairs_eq (pairs : List (Yaml × Yaml)) :
    barePairs pairs = pairs.map fun pair => (pair.1.bare, pair.2.bare) := by
  induction pairs with
  | nil => rfl
  | cons pair pairs ih => rw [barePairs, ih, List.map_cons]

theorem mergedItems_eq (items : List Yaml) : mergedItems items = items.map merged := by
  induction items with
  | nil => rfl
  | cons item items ih => rw [mergedItems, ih, List.map_cons]

theorem mergedPairs_eq (pairs : List (Yaml × Yaml)) :
    mergedPairs pairs = pairs.map fun pair => (pair.1.merged, pair.2.merged) := by
  induction pairs with
  | nil => rfl
  | cons pair pairs ih => rw [mergedPairs, ih, List.map_cons]

end Lists

/-- A document has the value that it has without its tags. -/
theorem toValue_bare (document : Yaml) : document.bare.toValue = document.toValue := by
  induction document using part_induction with
  -- The items keep their places.
  | sequence items ih =>
    rw [bare, toValue, toValue, itemValues_eq, itemValues_eq, bareItems_eq, List.map_map]
    exact congrArg Value.list (List.map_congr_left ih)
  | mapping pairs ih =>
    rw [bare, toValue, toValue, pairValues_eq, pairValues_eq, barePairs_eq, List.map_map]
    -- A pair keeps its name, as that is told from the value of the key alone.
    have each : pairs.map ((fun pair => (pair.1.label, pair.2.toValue)) ∘
        fun pair => (pair.1.bare, pair.2.bare)) =
        pairs.map fun pair => (pair.1.label, pair.2.toValue) := by
      refine List.map_congr_left fun pair member => ?_
      simp only [Function.comp_apply, label, ih pair member]
    rw [each]
  -- A tag is taken off here, and it is not seen there.
  | tagged tag document ih => rw [bare, toValue, ih]
  | _ => rfl

/-- A document without its tags holds none at any depth. -/
theorem not_holds_tagged (document : Yaml) (tag : String) (inner : Yaml) :
    ¬document.bare.Holds (.tagged tag inner) := by
  induction document using part_induction with
  | sequence items ih =>
    rw [bare, bareItems_eq]
    intro holds
    cases holds with
    | item member inside =>
      obtain ⟨item, also, rfl⟩ := List.mem_map.mp member
      exact ih item also inside
  | mapping pairs ih =>
    rw [bare, barePairs_eq]
    intro holds
    cases holds with
    | key member inside =>
      obtain ⟨pair, also, rfl⟩ := List.mem_map.mp member
      exact (ih pair also).1 inside
    | value member inside =>
      obtain ⟨pair, also, rfl⟩ := List.mem_map.mp member
      exact (ih pair also).2 inside
  -- The tag itself is taken off, and what it stood before has none inside.
  | tagged tag document ih =>
    rw [bare]
    exact ih
  | _ => nofun

section Merging

variable {pairs : List (Yaml × Yaml)} {key value : Yaml}

/-- The pairs of a mapping, of which a repeated key keeps its first place and its last value. -/
def joined (pairs : List (Yaml × Yaml)) : List (Yaml × Yaml) :=
  pairs.foldl (fun joined pair => insertPair pair.1 pair.2 joined) []

theorem ofPairs_eq (pairs : List (Yaml × Yaml)) : ofPairs pairs = .mapping (joined pairs) := rfl

theorem joined_snoc (pairs : List (Yaml × Yaml)) (pair : Yaml × Yaml) :
    joined (pairs ++ [pair]) = insertPair pair.1 pair.2 (joined pairs) := by
  rw [joined, List.foldl_append]
  rfl

/-- A value is put in the place of the first pair with the same key, or else comes last. -/
theorem insertPair_cases (key value : Yaml) (pairs : List (Yaml × Yaml)) :
    (∃ front first old back, pairs = front ++ (first, old) :: back ∧ first.sameKey key ∧
        insertPair key value pairs = front ++ (first, value) :: back) ∨
      ((∀ pair ∈ pairs, pair.1.sameKey key = false) ∧
        insertPair key value pairs = pairs ++ [(key, value)]) := by
  induction pairs with
  | nil => exact .inr ⟨nofun, rfl⟩
  | cons pair pairs ih =>
    obtain ⟨first, old⟩ := pair
    rw [insertPair]
    by_cases same : first.sameKey key
    · exact .inl ⟨[], first, old, pairs, rfl, same, by rw [if_pos same, List.nil_append]⟩
    · rw [if_neg same]
      -- The first pair stays where it is.
      rcases ih with ⟨front, other, last, back, rfl, found, put⟩ | ⟨fresh, put⟩
      · exact .inl ⟨(first, old) :: front, other, last, back, rfl, found, by rw [put]; rfl⟩
      · exact .inr ⟨List.forall_mem_cons.mpr ⟨Bool.eq_false_iff.mpr same, fresh⟩, by rw [put]; rfl⟩

/-- A key that has no place yet comes last, and another changes no key. -/
theorem keys_insertPair (key value : Yaml) (pairs : List (Yaml × Yaml)) :
    (insertPair key value pairs).map Prod.fst = pairs.map Prod.fst ∨
      ((∀ earlier ∈ pairs.map Prod.fst, earlier.sameKey key = false) ∧
        (insertPair key value pairs).map Prod.fst = pairs.map Prod.fst ++ [key]) := by
  rcases insertPair_cases key value pairs with ⟨front, first, old, back, rfl, -, put⟩ | ⟨fresh, put⟩
  · -- The first of the same keys stays, and only the value is new.
    exact .inl (by simp [put])
  -- The pair that is put at the end brings the only new key.
  · exact .inr ⟨List.forall_mem_map.mpr fresh, by simp [put]⟩

/-- Merged pairs have keys of the pairs, in order. -/
theorem joined_sublist (pairs : List (Yaml × Yaml)) :
    ((joined pairs).map Prod.fst).Sublist (pairs.map Prod.fst) := by
  -- Each pair adds its key at the end, or none.
  induction pairs using List.reverseRecOn with
  | nil => exact .slnil
  | append_singleton pairs pair ih =>
    rw [joined_snoc, List.map_append]
    rcases keys_insertPair pair.1 pair.2 (joined pairs) with keys | ⟨-, keys⟩
    · rw [keys]
      exact ih.trans (List.sublist_append_left _ _)
    · rw [keys]
      exact ih.append (.refl _)

/-- No key of merged pairs is the same as one before it. -/
theorem joined_pairwise (pairs : List (Yaml × Yaml)) :
    ((joined pairs).map Prod.fst).Pairwise fun first last => first.sameKey last = false := by
  -- A key is only put at the end where none before it is the same.
  induction pairs using List.reverseRecOn with
  | nil => exact .nil
  | append_singleton pairs pair ih =>
    rw [joined_snoc]
    rcases keys_insertPair pair.1 pair.2 (joined pairs) with keys | ⟨fresh, keys⟩
    · rwa [keys]
    · rw [keys]
      refine List.pairwise_append.mpr ⟨ih, List.pairwise_singleton _ _, ?_⟩
      intro first member last only
      rw [List.mem_singleton.mp only]
      exact fresh first member

/-- Some keys in front of others are settled when all of them are. -/
theorem AreSettled.front {keys more : List Yaml} (settled : AreSettled (keys ++ more)) :
    AreSettled keys := by
  -- What lies between two of the keys does not change with more keys behind them.
  intro front first between last back split
  refine settled front first between last (back ++ more) ?_
  rw [split]
  simp

/-- Where a key is the same as a settled one before it, no merged pair behind that one has its
name. -/
theorem AreSettled.last {first old : Yaml} {front back : List (Yaml × Yaml)}
    (settled : AreSettled (pairs.map Prod.fst ++ [key]))
    (split : joined pairs = front ++ (first, old) :: back) (same : first.sameKey key) :
    first.label = key.label ∧ ∀ pair ∈ back, pair.1.label ≠ first.label := by
  have keys := joined_sublist pairs
  have apart := joined_pairwise pairs
  rw [split, List.map_append, List.map_cons] at keys apart
  -- The merged keys behind the first one are keys between it and the last.
  obtain ⟨before, behind, whole, -, reached⟩ := List.append_sublist_iff.mp keys
  obtain ⟨upTo, after, divided, member, rest⟩ := List.cons_sublist_iff.mp reached
  obtain ⟨early, late, rfl⟩ := List.append_of_mem member
  have row : pairs.map Prod.fst ++ [key] =
      (before ++ early) ++ first :: ((late ++ after) ++ key :: []) := by
    rw [whole, divided]
    simp
  obtain ⟨name, between⟩ := settled _ _ _ _ _ row same
  refine ⟨name, fun pair inside alike => ?_⟩
  -- A key with the name would be the same as the first one, but merged keys are apart.
  have among : pair.1 ∈ back.map Prod.fst := List.mem_map_of_mem inside
  have equal := between pair.1 (List.mem_append_right late (rest.subset among)) (alike.trans name)
  have different := (List.pairwise_cons.mp (List.pairwise_append.mp apart).2.1).1 pair.1 among
  rw [different] at equal
  cases equal

/-- Where keys are settled, merging the pairs does not change the map that they become. -/
theorem ofList_joined (settled : AreSettled (pairs.map Prod.fst)) :
    Entries.ofList (pairValues (joined pairs)) = Entries.ofList (pairValues pairs) := by
  -- Both sides take one more pair at the end of those that they agree on.
  induction pairs using List.reverseRecOn with
  | nil => rfl
  | append_singleton pairs pair ih =>
    obtain ⟨key, value⟩ := pair
    rw [List.map_append, List.map_singleton] at settled
    have before := ih settled.front
    have onward : Entries.ofList (pairValues (pairs ++ [(key, value)])) =
        (Entries.ofList (pairValues pairs)).insert key.label value.toValue := by
      rw [pairValues_eq, pairValues_eq, List.map_append, List.map_singleton, Entries.ofList_snoc]
    rw [joined_snoc, onward, ← before]
    rcases insertPair_cases key value (joined pairs) with
      ⟨front, first, old, back, split, same, put⟩ | ⟨-, put⟩
    · -- The value that is replaced is the last one under the name.
      obtain ⟨name, fresh⟩ := settled.last split same
      rw [put, split, pairValues_eq, pairValues_eq, ← name]
      simp only [List.map_append, List.map_cons]
      refine Entries.ofList_change ?_ _ _
      simpa using fresh
    · -- A new key comes last on both sides.
      rw [put, pairValues_eq, pairValues_eq, List.map_append, List.map_singleton,
        Entries.ofList_snoc]

/-- A document has the value that it has with merged pairs, where the keys of all mappings in it are
settled. -/
theorem toValue_merged (document : Yaml)
    (settled : ∀ pairs, document.Holds (.mapping pairs) →
      AreSettled (pairs.map fun pair => pair.1.merged)) :
    document.merged.toValue = document.toValue := by
  induction document using part_induction with
  | sequence items ih =>
    rw [merged, toValue, toValue, itemValues_eq, itemValues_eq, mergedItems_eq, List.map_map]
    refine congrArg Value.list (List.map_congr_left fun item member => ?_)
    exact ih item member fun pairs inside => settled pairs (.item member inside)
  | mapping pairs ih =>
    -- What is in the pairs is merged first, and then the pairs themselves.
    have whole : AreSettled ((mergedPairs pairs).map Prod.fst) := by
      rw [mergedPairs_eq, List.map_map]
      exact settled pairs (.here _)
    have each : pairValues (mergedPairs pairs) = pairValues pairs := by
      rw [pairValues_eq, pairValues_eq, mergedPairs_eq, List.map_map]
      refine List.map_congr_left fun pair member => ?_
      obtain ⟨key, value⟩ := ih pair member
      simp only [Function.comp_apply, label,
        key fun pairs inside => settled pairs (.key member inside),
        value fun pairs inside => settled pairs (.value member inside)]
    rw [merged, ofPairs_eq, toValue, toValue, ofList_joined whole, each]
  -- Merging goes on behind a tag.
  | tagged tag document ih =>
    rw [merged, toValue, toValue]
    exact ih fun pairs inside => settled pairs (.tagged inside)
  | _ => rfl

/-- Keys are settled where two of them are the same exactly when they have one name. -/
theorem areSettled_of_pairwise {keys : List Yaml}
    (named : keys.Pairwise fun first last => first.sameKey last ↔ first.label = last.label) :
    AreSettled keys := by
  -- The same keys have the same names, and of these the ones between are the same too.
  rintro front first between last back rfl same
  have behind := (List.pairwise_cons.mp (List.pairwise_append.mp named).2.1).1
  have name := (behind last (by simp)).mp same
  refine ⟨name, fun key inside alike => ?_⟩
  exact (behind key (by simp [inside])).mpr (name.trans alike.symm)

end Merging

section Names

/-- The value of a document has no deferred values. -/
theorem toValue_isCallFree (document : Yaml) : document.toValue.isCallFree := by
  induction document using part_induction with
  | int n =>
    -- An integer is a number in all of its three cases.
    rw [toValue, integerValue]
    split
    · rfl
    · split
      · rw [Value.ofInt]
        cases Number.ofInt _ <;> rfl
      · rfl
  | sequence items ih =>
    rw [toValue, itemValues_eq]
    exact Value.areCallFree_iff.mpr (List.forall_mem_map.mpr ih)
  -- Merging by names brings no value that no pair has.
  | mapping pairs ih =>
    rw [toValue, pairValues_eq]
    refine Value.holdCallFree_iff.mpr fun entry member => ?_
    obtain ⟨pair, inside, rfl⟩ := List.mem_map.mp (Entries.mem_of_mem_ofList member)
    exact (ih pair inside).2
  | tagged tag document ih => exact ih
  | _ => rfl

/-- The name of a key is its text, or the text that its value is shown as. -/
theorem isLabel_label (key : Yaml) : key.IsLabel key.label := by
  have free := key.toValue_isCallFree
  -- Nothing is called when a key is shown, whatever was called before.
  obtain ⟨text, settles⟩ :=
    Value.display_settles _ (Value.dumpsDeferred_of_isCallFree _ free)
  have shows : ∀ before, key.toValue.display.outcome before = (key.label.toList, before) := by
    intro before
    have name : key.label = .ofList text := by
      rw [label, keyText, settles]
      rfl
    rw [settles, name, String.toList_ofList]
    rfl
  cases key with
  | string s =>
    rw [label, toValue, keyText_text]
    exact .string s
  | _ =>
    -- No other document is text, also where its value is.
    exact .shown nofun shows

/-- A mapping becomes a map with the names of its keys where they first stand, and with the values
that stand last under them. -/
theorem toValue_mapping (pairs : List (Yaml × Yaml)) :
    ∃ entries, (Yaml.mapping pairs).toValue = .map entries ∧
      Entries.keys entries = (pairs.map fun pair => pair.1.label).eraseDups ∧
      ∀ front key value back, pairs = front ++ (key, value) :: back →
        (∀ pair ∈ back, pair.1.label ≠ key.label) →
        Entries.get? entries key.label = some value.toValue := by
  refine ⟨_, rfl, ?_, ?_⟩
  -- The names are those of the pairs, each at its first place.
  · rw [Entries.keys_ofList, pairValues_eq, List.map_map]
    rfl
  · rintro front key value back rfl last
    -- The last pair of a name comes first from behind, with none of the name in front of it.
    have absent : Entries.get? (pairValues back).reverse key.label = none := by
      rw [Entries.get?_eq_none_iff, pairValues_eq, Entries.keys, List.map_reverse,
        List.mem_reverse, List.map_map]
      intro member
      obtain ⟨pair, inside, name⟩ := List.mem_map.mp member
      exact last pair inside name
    rw [pairValues_eq] at absent
    rw [Entries.get?_ofList, pairValues_eq, List.map_append, List.map_cons, List.reverse_append,
      List.reverse_cons, List.append_assoc, Entries.get?_append, absent, Option.none_or]
    exact (Entries.get?_cons _ _ _ _).trans (if_pos rfl)

end Names

/-- Tags are not seen: a document has the value of its pairs and items without any tag, also where
the pairs that have the same key then are merged, if the keys of each mapping are settled. A mapping
has the names of its keys in the order in which they first stand, and under each of them the value
that stands last under it. -/
theorem toValue_untagged (document : Yaml) :
    (∀ tag inner, ¬document.bare.Holds (.tagged tag inner)) ∧
      document.bare.toValue = document.toValue ∧
      ((∀ pairs, document.bare.Holds (.mapping pairs) →
          AreSettled (pairs.map fun pair => pair.1.merged)) →
        document.bare.merged.toValue = document.toValue) ∧
      (∀ key : Yaml, key.IsLabel key.label) ∧
      ∀ pairs, ∃ entries, (Yaml.mapping pairs).toValue = .map entries ∧
        Entries.keys entries = (pairs.map fun pair => pair.1.label).eraseDups ∧
        ∀ front key value back, pairs = front ++ (key, value) :: back →
          (∀ pair ∈ back, pair.1.label ≠ key.label) →
          Entries.get? entries key.label = some value.toValue := by
  refine ⟨document.not_holds_tagged, document.toValue_bare, fun settled => ?_, isLabel_label,
    toValue_mapping⟩
  rw [toValue_merged document.bare settled, toValue_bare]

/-- Two keys that are the same without their tags, with no other key of their name. -/
theorem toValue_untagged_merges :
    (Yaml.mapping [(.int 1, .string "z"), (.null, .sequence [.string "y"])]).toValue =
      (Yaml.mapping [(.tagged "a" (.int 1), .string "x"),
        (.tagged "b" .null, .sequence [.tagged "c" (.string "y")]),
        (.tagged "d" (.int 1), .string "z")]).toValue := by
  refine (toValue_untagged (.mapping [(.tagged "a" (.int 1), .string "x"),
    (.tagged "b" .null, .sequence [.tagged "c" (.string "y")]),
    (.tagged "d" (.int 1), .string "z")])).2.2.1 fun pairs holds => ?_
  have items : ¬(Yaml.sequence [.string "y"]).Holds (.mapping pairs) := by
    intro holds
    cases holds with
    | item member inside =>
      rw [List.mem_singleton.mp member] at inside
      cases inside
  have parts : ∀ pair ∈ [(Yaml.int 1, Yaml.string "x"), (.null, .sequence [.string "y"]),
      (.int 1, .string "z")],
      ¬pair.1.Holds (.mapping pairs) ∧ ¬pair.2.Holds (.mapping pairs) := by
    simp only [List.forall_mem_cons]
    exact ⟨⟨nofun, nofun⟩, ⟨nofun, items⟩, ⟨nofun, nofun⟩, nofun⟩
  -- The only mapping is the document itself.
  cases holds with
  | here => exact areSettled_of_pairwise (by decide)
  | key member inside => exact absurd inside (parts _ member).1
  | value member inside => exact absurd inside (parts _ member).2

/-- Where keys become the same without their tags, merging them can let another key have the last
value under their name. -/
theorem toValue_unsettled :
    (Yaml.mapping [(.int 1, .string "a"), (.string "1", .string "b"),
        (.tagged "t" (.int 1), .string "c")]).merged =
      .mapping [(.int 1, .string "a"), (.string "1", .string "b"),
        (.tagged "t" (.int 1), .string "c")] ∧
    (Yaml.mapping [(.int 1, .string "a"), (.string "1", .string "b"),
        (.tagged "t" (.int 1), .string "c")]).toValue = .map [("1", .text "c")] ∧
    (Yaml.mapping [(.int 1, .string "a"), (.string "1", .string "b"),
        (.tagged "t" (.int 1), .string "c")]).bare.merged.toValue = .map [("1", .text "b")] ∧
    (Yaml.mapping [(.int 1, .string "a"), (.string "1", .string "b"),
        (.tagged "t" (.int 1), .string "c")]).bare.merged.toValue ≠
      (Yaml.mapping [(.int 1, .string "a"), (.string "1", .string "b"),
        (.tagged "t" (.int 1), .string "c")]).toValue := by
  -- All three documents are computed, and two values under one name differ.
  refine ⟨rfl, rfl, rfl, ?_⟩
  have values : Value.map [("1", .text "b")] ≠ .map [("1", .text "c")] := by simp
  exact values

end TextTemplate.Yaml
