import TextTemplate.Proofs.Value.Deferred

/-! A dump calls each deferred value where it stands, and is the dump of the value that has their
results in their places. Shown as text, a value is dumped where it is a map or holds one in
lists. -/

namespace TextTemplate

/-- The history of calls when others have been made in order behind it. -/
def CallHistory.behind (before : CallHistory) (calls : List Nat) : CallHistory :=
  ⟨calls.reverse ++ before.calls⟩

/-- Calls are made behind those that have been made before them. -/
theorem behind_append (before : CallHistory) (front back : List Nat) :
    before.behind (front ++ back) = (before.behind front).behind back := by
  -- The history keeps the last call first, so it grows at its front.
  simp only [CallHistory.behind, List.reverse_append, List.append_assoc]

namespace Value

/-- Whether a value holds no others and is known without a call. -/
def IsScalar : Value → Prop
  | .list _ | .map _ | .deferred .. => False
  | _ => True

mutual

/-- The deferred values in a value are called in order behind earlier calls, each where it stands
and then those in what it yields, and the results take their places. -/
inductive Forces : CallHistory → Value → Value → List Nat → Prop where
  | scalar {before : CallHistory} {value : Value} : value.IsScalar → Forces before value value []
  | list {before : CallHistory} {items forced : List Value} {calls : List Nat} :
      ForcesItems before items forced calls → Forces before (.list items) (.list forced) calls
  | map {before : CallHistory} {entries forced : List (String × Value)} {calls : List Nat} :
      ForcesEntries before entries forced calls → Forces before (.map entries) (.map forced) calls
  | deferred {before : CallHistory} {id : Nat} {early : List Value} {steady forced : Value}
      {calls : List Nat} :
      Forces (before.behind [id]) (early.getD (before.count id) steady) forced calls →
      Forces before (.deferred id early steady) forced (id :: calls)

/-- The deferred values in several values are called, those in the first before all others. -/
inductive ForcesItems : CallHistory → List Value → List Value → List Nat → Prop where
  | nil {before : CallHistory} : ForcesItems before [] [] []
  | cons {before : CallHistory} {item result : Value} {items results : List Value}
      {front back : List Nat} :
      Forces before item result front → ForcesItems (before.behind front) items results back →
      ForcesItems before (item :: items) (result :: results) (front ++ back)

/-- The deferred values in several entries are called, those in the first before all others. -/
inductive ForcesEntries : CallHistory → List (String × Value) → List (String × Value) →
    List Nat → Prop where
  | nil {before : CallHistory} : ForcesEntries before [] [] []
  | cons {before : CallHistory} (key : String) {value result : Value}
      {entries results : List (String × Value)} {front back : List Nat} :
      Forces before value result front → ForcesEntries (before.behind front) entries results back →
      ForcesEntries before ((key, value) :: entries) ((key, result) :: results) (front ++ back)

end

mutual

/-- The deferred values in a map are called, and in a list those in its items that are maps or lists
of maps. No others are. -/
inductive Shows : CallHistory → Value → Value → List Nat → Prop where
  | scalar {before : CallHistory} {value : Value} : value.IsScalar → Shows before value value []
  | deferred {before : CallHistory} {id : Nat} {early : List Value} {steady : Value} :
      Shows before (.deferred id early steady) (.deferred id early steady) []
  | list {before : CallHistory} {items shown : List Value} {calls : List Nat} :
      ShowsItems before items shown calls → Shows before (.list items) (.list shown) calls
  | map {before : CallHistory} {entries forced : List (String × Value)} {calls : List Nat} :
      ForcesEntries before entries forced calls → Shows before (.map entries) (.map forced) calls

/-- The deferred values in maps among several values are called, those in the first before all
others. -/
inductive ShowsItems : CallHistory → List Value → List Value → List Nat → Prop where
  | nil {before : CallHistory} : ShowsItems before [] [] []
  | cons {before : CallHistory} {item result : Value} {items results : List Value}
      {front back : List Nat} :
      Shows before item result front → ShowsItems (before.behind front) items results back →
      ShowsItems before (item :: items) (result :: results) (front ++ back)

end

section Unique

-- The induction is on how a value is forced, which its constructor tells.
mutual

/-- A value is forced in one way. -/
theorem Forces.unique {before : CallHistory} {value forced other : Value} {calls made : List Nat} :
    Forces before value forced calls → Forces before value other made →
      other = forced ∧ made = calls
  -- A scalar is none of the values that the other cases are about.
  | .scalar leaf, also => by
    cases also with
    | scalar => exact ⟨rfl, rfl⟩
    | list | map | deferred => exact leaf.elim
  | .list items, also => by
    cases also with
    | scalar leaf => exact leaf.elim
    | list others =>
      obtain ⟨rfl, rfl⟩ := items.unique others
      exact ⟨rfl, rfl⟩
  | .map entries, also => by
    cases also with
    | scalar leaf => exact leaf.elim
    | map others =>
      obtain ⟨rfl, rfl⟩ := entries.unique others
      exact ⟨rfl, rfl⟩
  -- The number of the call is told by the history, so that both have the same result.
  | .deferred result, also => by
    cases also with
    | scalar leaf => exact leaf.elim
    | deferred another =>
      obtain ⟨rfl, rfl⟩ := result.unique another
      exact ⟨rfl, rfl⟩

/-- Values are forced in one way. -/
theorem ForcesItems.unique {before : CallHistory} {items forced others : List Value}
    {calls made : List Nat} :
    ForcesItems before items forced calls → ForcesItems before items others made →
      others = forced ∧ made = calls
  | .nil, .nil => ⟨rfl, rfl⟩
  -- The first items make the same calls, and the others begin behind them.
  | .cons item items, .cons other others => by
    obtain ⟨rfl, rfl⟩ := item.unique other
    obtain ⟨rfl, rfl⟩ := items.unique others
    exact ⟨rfl, rfl⟩

/-- Entries are forced in one way. -/
theorem ForcesEntries.unique {before : CallHistory} {entries forced others : List (String × Value)}
    {calls made : List Nat} :
    ForcesEntries before entries forced calls → ForcesEntries before entries others made →
      others = forced ∧ made = calls
  | .nil, .nil => ⟨rfl, rfl⟩
  | .cons key value entries, .cons _ other others => by
    obtain ⟨rfl, rfl⟩ := value.unique other
    obtain ⟨rfl, rfl⟩ := entries.unique others
    exact ⟨rfl, rfl⟩

end

mutual

/-- A value is shown in one way. -/
theorem Shows.unique {before : CallHistory} {value shown other : Value} {calls made : List Nat} :
    Shows before value shown calls → Shows before value other made → other = shown ∧ made = calls
  | .scalar leaf, also => by
    cases also with
    | scalar => exact ⟨rfl, rfl⟩
    | list | map | deferred => exact leaf.elim
  -- A deferred value is left alone.
  | .deferred, also => by
    cases also with
    | scalar leaf => exact leaf.elim
    | deferred => exact ⟨rfl, rfl⟩
  | .list items, also => by
    cases also with
    | scalar leaf => exact leaf.elim
    | list others =>
      obtain ⟨rfl, rfl⟩ := items.unique others
      exact ⟨rfl, rfl⟩
  | .map entries, also => by
    cases also with
    | scalar leaf => exact leaf.elim
    | map others =>
      obtain ⟨rfl, rfl⟩ := entries.unique others
      exact ⟨rfl, rfl⟩

/-- Values are shown in one way. -/
theorem ShowsItems.unique {before : CallHistory} {items shown others : List Value}
    {calls made : List Nat} :
    ShowsItems before items shown calls → ShowsItems before items others made →
      others = shown ∧ made = calls
  | .nil, .nil => ⟨rfl, rfl⟩
  | .cons item items, .cons other others => by
    obtain ⟨rfl, rfl⟩ := item.unique other
    obtain ⟨rfl, rfl⟩ := items.unique others
    exact ⟨rfl, rfl⟩

end

end Unique

section Existence

-- The induction is on the value, with its results among its parts.
mutual

/-- Each value is forced. -/
theorem exists_forces : (value : Value) → (before : CallHistory) →
    ∃ forced calls, Forces before value forced calls
  | .null, _ | .bool _, _ | .int _, _ | .float _, _ | .text _, _ => ⟨_, [], .scalar trivial⟩
  | .list items, before => by
    obtain ⟨forced, calls, each⟩ := exists_forcesItems items before
    exact ⟨.list forced, calls, .list each⟩
  | .map entries, before => by
    obtain ⟨forced, calls, each⟩ := exists_forcesEntries entries before
    exact ⟨.map forced, calls, .map each⟩
  -- The value is called first, and then what its result holds.
  | .deferred id early steady, before => by
    obtain ⟨forced, calls, result⟩ :=
      exists_forcesResult early (exists_forces steady) (before.count id) (before.behind [id])
    exact ⟨forced, id :: calls, .deferred result⟩

/-- Values are forced one after the other. -/
theorem exists_forcesItems : (items : List Value) → (before : CallHistory) →
    ∃ forced calls, ForcesItems before items forced calls
  | [], _ => ⟨[], [], .nil⟩
  | item :: items, before => by
    obtain ⟨result, front, first⟩ := exists_forces item before
    obtain ⟨results, back, rest⟩ := exists_forcesItems items (before.behind front)
    exact ⟨result :: results, front ++ back, .cons first rest⟩

/-- Entries are forced one after the other. -/
theorem exists_forcesEntries : (entries : List (String × Value)) → (before : CallHistory) →
    ∃ forced calls, ForcesEntries before entries forced calls
  | [], _ => ⟨[], [], .nil⟩
  | (key, value) :: entries, before => by
    obtain ⟨result, front, first⟩ := exists_forces value before
    obtain ⟨results, back, rest⟩ := exists_forcesEntries entries (before.behind front)
    exact ⟨(key, result) :: results, front ++ back, .cons key first rest⟩

/-- Each result is forced where the last one is. -/
theorem exists_forcesResult {steady : Value} : (early : List Value) →
    (∀ before, ∃ forced calls, Forces before steady forced calls) → (earlier : Nat) →
    (before : CallHistory) → ∃ forced calls, Forces before (early.getD earlier steady) forced calls
  | [], last, _, before => last before
  | result :: _, _, 0, before => exists_forces result before
  -- The results are counted down together with the earlier calls.
  | _ :: results, last, earlier + 1, before => exists_forcesResult results last earlier before

end

mutual

/-- Each value is shown. -/
theorem exists_shows : (value : Value) → (before : CallHistory) →
    ∃ shown calls, Shows before value shown calls
  | .null, _ | .bool _, _ | .int _, _ | .float _, _ | .text _, _ => ⟨_, [], .scalar trivial⟩
  | .deferred .., _ => ⟨_, [], .deferred⟩
  -- Only in a list does showing go on with the parts.
  | .list items, before => by
    obtain ⟨shown, calls, each⟩ := exists_showsItems items before
    exact ⟨.list shown, calls, .list each⟩
  | .map entries, before => by
    obtain ⟨forced, calls, each⟩ := exists_forcesEntries entries before
    exact ⟨.map forced, calls, .map each⟩

/-- Values are shown one after the other. -/
theorem exists_showsItems : (items : List Value) → (before : CallHistory) →
    ∃ shown calls, ShowsItems before items shown calls
  | [], _ => ⟨[], [], .nil⟩
  | item :: items, before => by
    obtain ⟨result, front, first⟩ := exists_shows item before
    obtain ⟨results, back, rest⟩ := exists_showsItems items (before.behind front)
    exact ⟨result :: results, front ++ back, .cons first rest⟩

end

end Existence

section Dumped

/-- No deferred value stands in a scalar. -/
theorem IsScalar.isCallFree {value : Value} (leaf : value.IsScalar) : value.isCallFree := by
  -- Only lists, maps and deferred values can hold calls.
  cases value with
  | list | map | deferred => exact leaf.elim
  | _ => rfl

mutual

/-- No deferred value is left in a value that is forced. -/
theorem Forces.isCallFree {before : CallHistory} {value forced : Value} {calls : List Nat} :
    Forces before value forced calls → forced.isCallFree
  | .scalar leaf => leaf.isCallFree
  | .list items => items.areCallFree
  | .map entries => entries.holdCallFree
  -- A result takes the place of the value that yields it.
  | .deferred result => result.isCallFree

/-- No deferred value is left in values that are forced. -/
theorem ForcesItems.areCallFree {before : CallHistory} {items forced : List Value}
    {calls : List Nat} : ForcesItems before items forced calls → areCallFree forced
  | .nil => rfl
  | .cons item items => Bool.and_eq_true_iff.mpr ⟨item.isCallFree, items.areCallFree⟩

/-- No deferred value is left in entries that are forced. -/
theorem ForcesEntries.holdCallFree {before : CallHistory} {entries forced : List (String × Value)}
    {calls : List Nat} : ForcesEntries before entries forced calls → holdCallFree forced
  | .nil => rfl
  | .cons _ value entries => Bool.and_eq_true_iff.mpr ⟨value.isCallFree, entries.holdCallFree⟩

end

/-- A call behind earlier ones yields their number. -/
theorem outcome_recordCall (id : Nat) (before : CallHistory) :
    (recordCall id).outcome before = (before.count id, before.behind [id]) := rfl

-- The induction is on how a value is forced, with the calls that have been made before each part.
mutual

/-- A value is dumped as what it is forced to, and the dump makes the calls that force it. -/
theorem Forces.toJson_outcome {before : CallHistory} {value forced : Value} {calls : List Nat} :
    Forces before value forced calls → ∃ json, forced.toJson = pure json ∧
      value.toJson.outcome before = (json, before.behind calls)
  -- There is nothing to call.
  | .scalar leaf => by
    obtain ⟨json, settled⟩ := toJson_settles _ leaf.isCallFree
    exact ⟨json, settled, by rw [settled]; rfl⟩
  | .list items => by
    obtain ⟨jsons, settled, made⟩ := items.jsonItems_outcome
    refine ⟨.array jsons, ?_, ?_⟩
    · rw [toJson, settled]
      rfl
    · rw [toJson, outcome_bind, made]
      rfl
  | .map entries => by
    obtain ⟨jsons, settled, made⟩ := entries.jsonMembers_outcome
    refine ⟨.object jsons, ?_, ?_⟩
    · rw [toJson, settled]
      rfl
    · rw [toJson, outcome_bind, made]
      rfl
  | .deferred result => by
    -- The call of the value itself comes before those in its result.
    obtain ⟨json, settled, made⟩ := result.toJson_outcome
    refine ⟨json, settled, ?_⟩
    rw [toJson, outcome_bind, outcome_recordCall, jsonResult_eq, made, ← behind_append]
    rfl

/-- Values are dumped as what they are forced to. -/
theorem ForcesItems.jsonItems_outcome {before : CallHistory} {items forced : List Value}
    {calls : List Nat} : ForcesItems before items forced calls →
      ∃ jsons, jsonItems forced = pure jsons ∧
        (jsonItems items).outcome before = (jsons, before.behind calls)
  | .nil => ⟨[], rfl, rfl⟩
  -- The calls of the first item come before those of the others.
  | .cons item items => by
    obtain ⟨json, settled, made⟩ := item.toJson_outcome
    obtain ⟨jsons, others, more⟩ := items.jsonItems_outcome
    refine ⟨json :: jsons, ?_, ?_⟩
    · rw [jsonItems, settled, others]
      rfl
    · rw [jsonItems, outcome_bind, made, outcome_bind, more, behind_append]
      rfl

/-- Entries are dumped as what they are forced to. -/
theorem ForcesEntries.jsonMembers_outcome {before : CallHistory}
    {entries forced : List (String × Value)} {calls : List Nat} :
    ForcesEntries before entries forced calls → ∃ jsons, jsonMembers forced = pure jsons ∧
      (jsonMembers entries).outcome before = (jsons, before.behind calls)
  | .nil => ⟨[], rfl, rfl⟩
  -- The calls of the first entry come before those of the others.
  | .cons key value entries => by
    obtain ⟨json, settled, made⟩ := value.toJson_outcome
    obtain ⟨jsons, others, more⟩ := entries.jsonMembers_outcome
    refine ⟨(key, json) :: jsons, ?_, ?_⟩
    · rw [jsonMembers, settled, others]
      rfl
    · rw [jsonMembers, outcome_bind, made, outcome_bind, more, behind_append]
      rfl

end

/-- The text of an item in a list, where null shows nothing. -/
def displayItem : Value → Calls (List Char)
  | .null => pure []
  | item => item.display

/-- An item is shown as what remains of it where it is shown so apart from a list. -/
theorem Shows.displayItem_outcome {before : CallHistory} {item result : Value} {calls : List Nat}
    (shows : Shows before item result calls)
    (alone : ∃ text, result.display = pure text ∧
      item.display.outcome before = (text, before.behind calls)) :
    ∃ text, displayItem result = pure text ∧
      (displayItem item).outcome before = (text, before.behind calls) := by
  -- Null is shown as nothing in a list, and makes no call either way.
  cases shows with
  | scalar leaf =>
    cases item with
    | null => exact ⟨[], rfl, rfl⟩
    | _ => exact alone
  | deferred | list | map => exact alone

/-- The items of a list are shown one after the other. -/
theorem displayItems_cons (item : Value) (items : List Value) :
    displayItems (item :: items) =
      do let shown ← displayItem item; return shown :: (← displayItems items) := by
  -- Null is the only item with a case of its own.
  cases item <;> rfl

mutual

/-- A value is shown as what remains when its maps are forced, and showing it makes the calls that
force them. -/
theorem Shows.display_outcome {before : CallHistory} {value shown : Value} {calls : List Nat} :
    Shows before value shown calls → ∃ text, shown.display = pure text ∧
      value.display.outcome before = (text, before.behind calls)
  | .scalar leaf => by
    obtain ⟨text, settled⟩ := display_settles _ (dumpsDeferred_of_isCallFree _ leaf.isCallFree)
    exact ⟨text, settled, by rw [settled]; rfl⟩
  | .deferred => ⟨_, rfl, rfl⟩
  | .list items => by
    obtain ⟨texts, settled, made⟩ := items.displayItems_outcome
    refine ⟨[','].intercalate texts, ?_, ?_⟩
    · rw [display, settled]
      rfl
    · rw [display, outcome_bind, made]
      rfl
  -- A map is shown as it is dumped, and forced for that.
  | .map entries => by
    obtain ⟨json, settled, made⟩ := (Forces.map entries).toJson_outcome
    refine ⟨json.compact, ?_, ?_⟩
    · rw [display, settled]
      rfl
    · rw [display, outcome_bind, made]
      rfl

/-- Values are shown as what remains of them. -/
theorem ShowsItems.displayItems_outcome {before : CallHistory} {items shown : List Value}
    {calls : List Nat} : ShowsItems before items shown calls →
      ∃ texts, displayItems shown = pure texts ∧
        (displayItems items).outcome before = (texts, before.behind calls)
  | .nil => ⟨[], rfl, rfl⟩
  -- Items are shown in order, each as what remains of it.
  | .cons item items => by
    obtain ⟨text, settled, made⟩ := item.displayItem_outcome item.display_outcome
    obtain ⟨texts, others, more⟩ := items.displayItems_outcome
    refine ⟨text :: texts, ?_, ?_⟩
    · rw [displayItems_cons, settled, others]
      rfl
    · rw [displayItems_cons, outcome_bind, made, outcome_bind, more, behind_append]
      rfl

end

end Dumped

/-- A map is shown as its dump on one line. -/
theorem display_map (entries : List (String × Value)) :
    (map entries).display = (map entries).dump 0 := by
  rw [display, dump]
  rfl

/-- A value is dumped as the value that it is forced to, and the dump makes the calls that force it
in order and no others. So is a map shown, and any other value is shown as what remains when the
maps in its lists are forced. -/
theorem dump_forced (value : Value) (before : CallHistory) :
    (∃ forced calls,
      (∀ other made, Forces before value other made ↔ other = forced ∧ made = calls) ∧
      forced.isCallFree ∧ ∀ indent, ∃ text, forced.dump indent = pure text ∧
        (value.dump indent).outcome before = (text, before.behind calls)) ∧
    (∃ shown calls,
      (∀ other made, Shows before value other made ↔ other = shown ∧ made = calls) ∧
      ∃ text, shown.display = pure text ∧
        value.display.outcome before = (text, before.behind calls)) ∧
    ∀ entries, value = .map entries → value.display = value.dump 0 := by
  refine ⟨?_, ?_, ?_⟩
  · -- The indentation matters only when the document is written, behind all calls.
    obtain ⟨forced, calls, forces⟩ := exists_forces value before
    obtain ⟨json, settled, made⟩ := forces.toJson_outcome
    refine ⟨forced, calls, fun other made => ⟨forces.unique, ?_⟩, forces.isCallFree, ?_⟩
    · rintro ⟨rfl, rfl⟩
      exact forces
    · intro indent
      refine ⟨json.write indent 0, ?_, ?_⟩
      · rw [dump, settled]
        rfl
      · rw [dump, outcome_bind, made]
        rfl
  -- What is shown depends in the same way on what remains when the maps are forced.
  · obtain ⟨shown, calls, shows⟩ := exists_shows value before
    refine ⟨shown, calls, fun other made => ⟨shows.unique, ?_⟩, shows.display_outcome⟩
    rintro ⟨rfl, rfl⟩
    exact shows
  · rintro entries rfl
    exact display_map entries

-- A value that stands in several places is called in each, and what it yields is called in turn.
example :
    ((list [deferred 0 [.int 1] (deferred 1 [] .null), deferred 0 [.int 1] (deferred 1 [] .null),
        map [("a", deferred 0 [] (.int 3))]]).dump 0).outcome .empty =
      ("[1,null,\x7b\x22a\x22:3\x7d]".toList, ⟨[0, 1, 0, 0]⟩) := by
  decide

end Value

end TextTemplate
