import TextTemplate.Proofs.Template.Rendering

/-! Calls are made for deferred values only: dumping a value calls all of them in it, and showing
it those that stand in maps. -/

namespace TextTemplate

namespace Calls

variable {α β : Type}

/-- A computation makes no call and yields the same behind all calls. -/
def Settles (computation : Calls α) : Prop :=
  ∃ a, computation = pure a

/-- A computation makes calls behind the earlier ones, and at least one of them where it must. -/
def Adds (must : Bool) (computation : Calls α) : Prop :=
  ∀ before, ∃ made,
    (computation.outcome before).2.calls = made ++ before.calls ∧ (must → made ≠ [])

/-- A computation that settles makes no call. -/
theorem Settles.outcome {computation : Calls α} (settles : computation.Settles) :
    ∃ a, ∀ before, computation.outcome before = (a, before) := by
  -- What settles is the same behind every history.
  obtain ⟨a, rfl⟩ := settles
  exact ⟨a, fun before => rfl⟩

theorem settles_pure (a : α) : Settles (pure a) :=
  ⟨a, rfl⟩

/-- Computations settle one after the other. -/
theorem Settles.bind {first : Calls α} {second : α → Calls β} (front : first.Settles)
    (back : ∀ a, (second a).Settles) : (first >>= second).Settles := by
  -- The first result is fixed, and what comes behind it settles.
  obtain ⟨a, rfl⟩ := front
  exact back a

theorem adds_pure (a : α) : Adds false (pure a) := by
  intro before
  exact ⟨[], rfl, nofun⟩

/-- One of two computations must make a call where one of them alone must. -/
theorem Adds.bind {first : Calls α} {second : α → Calls β} {front back : Bool}
    (adds : first.Adds front) (onward : ∀ a, (second a).Adds back) :
    (first >>= second).Adds (front || back) := by
  intro before
  obtain ⟨early, reached, some⟩ := adds before
  obtain ⟨late, ended, more⟩ := onward (first.outcome before).1 (first.outcome before).2
  refine ⟨late ++ early, ?_, ?_⟩
  · rw [outcome_bind, ended, reached, List.append_assoc]
  · -- The calls of both are none only where those of each are none.
    intro must none
    obtain ⟨rfl, rfl⟩ := List.append_eq_nil_iff.mp none
    rcases Bool.or_eq_true_iff.mp must with must | must
    · exact some must rfl
    · exact more must rfl

/-- Turning a result into another makes no further call. -/
theorem Adds.map {first : Calls α} {must : Bool} (adds : first.Adds must) (f : α → β) :
    (first >>= fun a => pure (f a)).Adds must := by
  -- What comes behind the calls makes none.
  have onward := adds.bind fun a => adds_pure (f a)
  rwa [Bool.or_false] at onward

/-- A computation that makes calls may be one of which nothing is asked. -/
theorem Adds.weaken {computation : Calls α} {must : Bool} (adds : computation.Adds must) :
    computation.Adds false := by
  -- The calls that are made stay the same.
  intro before
  obtain ⟨made, reached, _⟩ := adds before
  exact ⟨made, reached, nofun⟩

/-- A call is made where one is recorded. -/
theorem adds_recordCall (id : Nat) : Adds true (recordCall id) := by
  -- The call itself is the one that is made.
  intro before
  exact ⟨[id], rfl, fun _ => List.cons_ne_nil id []⟩

/-- No deferred value is called where no call has to be made and none is made otherwise. -/
theorem Adds.count_eq_iff {computation : Calls α} {must : Bool} (adds : computation.Adds must)
    (settles : must = false → computation.Settles) (before : CallHistory) :
    (∀ id, (computation.outcome before).2.count id = before.count id) ↔ must = false := by
  constructor
  · intro same
    obtain ⟨made, reached, some⟩ := adds before
    rw [← Bool.not_eq_true]
    intro must
    -- The first value that is called is counted once more than before.
    obtain ⟨id, rest, rfl⟩ := List.exists_cons_of_ne_nil (some must)
    have more := same id
    rw [CallHistory.count, CallHistory.count, reached, List.count_append,
      List.count_cons_self] at more
    omega
  · intro quiet id
    obtain ⟨a, settled⟩ := (settles quiet).outcome
    rw [settled]

end Calls

namespace Value

mutual

/-- Whether no deferred value stands in a value at any depth. -/
def isCallFree : Value → Bool
  | .list items => areCallFree items
  | .map entries => holdCallFree entries
  | .deferred .. => false
  | _ => true

/-- Whether no deferred value stands in any of several values. -/
def areCallFree : List Value → Bool
  | [] => true
  | item :: items => isCallFree item && areCallFree items

/-- Whether no deferred value stands in any of several entries. -/
def holdCallFree : List (String × Value) → Bool
  | [] => true
  | (_, value) :: entries => isCallFree value && holdCallFree entries

end

mutual

/-- Whether a deferred value stands in a map that is the value or an item of lists in it. -/
def dumpsDeferred : Value → Bool
  | .list items => dumpDeferred items
  | .map entries => !holdCallFree entries
  | _ => false

/-- Whether one of several values has a deferred value in such a map. -/
def dumpDeferred : List Value → Bool
  | [] => false
  | item :: items => dumpsDeferred item || dumpDeferred items

end

/-- A value without deferred values is known without a call. -/
theorem resolve_of_isCallFree {value : Value} (free : value.isCallFree) :
    value.resolve = pure value := by
  -- Only a deferred value is called, and it is not free of calls.
  cases value with
  | deferred => exact absurd free nofun
  | _ => rfl

/-- No deferred value stands in values where none stands in each of them. -/
theorem areCallFree_iff {items : List Value} :
    areCallFree items ↔ ∀ item ∈ items, item.isCallFree := by
  induction items with
  | nil => simp [areCallFree]
  | cons item items ih => simp [areCallFree, ih]

/-- No deferred value stands in a map where none stands in the value of an entry. -/
theorem holdCallFree_iff {entries : List (String × Value)} :
    holdCallFree entries ↔ ∀ entry ∈ entries, entry.2.isCallFree := by
  induction entries with
  | nil => simp [holdCallFree]
  | cons entry entries ih => simp only [holdCallFree, Bool.and_eq_true, ih, List.forall_mem_cons]

mutual

/-- A value without deferred values has none in a map. -/
theorem dumpsDeferred_of_isCallFree : (value : Value) → value.isCallFree →
    value.dumpsDeferred = false
  | .null, _ | .bool _, _ | .int _, _ | .float _, _ | .text _, _ => rfl
  | .list items, free => dumpDeferred_of_areCallFree items free
  -- A map counts where it holds a deferred value, and this one does not.
  | .map _, free => Bool.not_eq_eq_eq_not.mpr free

/-- Values without deferred values have none in a map. -/
theorem dumpDeferred_of_areCallFree : (items : List Value) → areCallFree items →
    dumpDeferred items = false
  | [], _ => rfl
  | item :: items, free => by
    obtain ⟨first, rest⟩ := Bool.and_eq_true_iff.mp free
    exact Bool.or_eq_false_iff.mpr
      ⟨dumpsDeferred_of_isCallFree item first, dumpDeferred_of_areCallFree items rest⟩

end

/-- A result is dumped as the value that the call yields. -/
theorem jsonResult_eq (early : List Value) (steady : Value) (earlier : Nat) :
    jsonResult early steady.toJson earlier = (early.getD earlier steady).toJson := by
  -- The results are counted down together with the earlier calls.
  induction early generalizing earlier with
  | nil => rfl
  | cons result results ih =>
    cases earlier with
    | zero => rfl
    | succ earlier => exact ih earlier

/-- A value is dumped as what it yields when it is used. -/
theorem resolve_toJson (value : Value) : (do (← value.resolve).toJson) = value.toJson := by
  cases value with
  -- The call is recorded in both, and the same result is dumped behind it.
  | deferred id early steady =>
    funext before
    rw [toJson]
    exact congrFun (jsonResult_eq early steady (before.count id)).symm _
  | _ => rfl

mutual

/-- The document of a value without deferred values is known without a call. -/
theorem toJson_settles : (value : Value) → value.isCallFree → value.toJson.Settles
  | .null, _ | .bool _, _ | .int _, _ | .float _, _ | .text _, _ => ⟨_, rfl⟩
  -- The parts settle one after the other, and so does the whole.
  | .list items, free => by
    rw [toJson]
    exact (jsonItems_settles items free).bind fun _ => Calls.settles_pure _
  | .map entries, free => by
    rw [toJson]
    exact (jsonMembers_settles entries free).bind fun _ => Calls.settles_pure _

/-- The documents of values without deferred values are known without a call. -/
theorem jsonItems_settles : (items : List Value) → areCallFree items → (jsonItems items).Settles
  | [], _ => ⟨_, rfl⟩
  | item :: items, free => by
    obtain ⟨first, rest⟩ := Bool.and_eq_true_iff.mp free
    rw [jsonItems]
    exact (toJson_settles item first).bind fun _ =>
      (jsonItems_settles items rest).bind fun _ => Calls.settles_pure _

/-- The members of entries without deferred values are known without a call. -/
theorem jsonMembers_settles : (entries : List (String × Value)) → holdCallFree entries →
    (jsonMembers entries).Settles
  | [], _ => ⟨_, rfl⟩
  | (key, value) :: entries, free => by
    obtain ⟨first, rest⟩ := Bool.and_eq_true_iff.mp free
    rw [jsonMembers]
    exact (toJson_settles value first).bind fun _ =>
      (jsonMembers_settles entries rest).bind fun _ => Calls.settles_pure _

end

-- The induction follows the writer: a call in any part is one in the whole.
mutual

/-- Dumping a value makes a call where a deferred value stands in it. -/
theorem toJson_adds : (value : Value) → value.toJson.Adds !value.isCallFree
  | .null | .bool _ | .int _ | .float _ | .text _ => Calls.adds_pure _
  | .list items => by
    rw [toJson]
    exact (jsonItems_adds items).map _
  | .map entries => by
    rw [toJson]
    exact (jsonMembers_adds entries).map _
  | .deferred id early steady => by
    -- The value itself is called, so nothing is asked of its results.
    rw [toJson]
    exact (Calls.adds_recordCall id).bind fun earlier =>
      jsonResult_adds early (toJson_adds steady).weaken earlier

/-- Dumping values makes a call where a deferred value stands in one of them. -/
theorem jsonItems_adds : (items : List Value) → (jsonItems items).Adds !areCallFree items
  | [] => Calls.adds_pure _
  | item :: items => by
    rw [jsonItems, areCallFree, Bool.not_and]
    exact (toJson_adds item).bind fun _ => (jsonItems_adds items).map _

/-- Dumping entries makes a call where a deferred value stands in one of them. -/
theorem jsonMembers_adds : (entries : List (String × Value)) →
    (jsonMembers entries).Adds !holdCallFree entries
  | [] => Calls.adds_pure _
  | (key, value) :: entries => by
    rw [jsonMembers, holdCallFree, Bool.not_and]
    exact (toJson_adds value).bind fun _ => (jsonMembers_adds entries).map _

/-- Dumping a result makes calls behind the earlier ones. -/
theorem jsonResult_adds : (results : List Value) → {steady : Calls Json} → steady.Adds false →
    (earlier : Nat) → (jsonResult results steady earlier).Adds false
  | [], _, last, _ => by
    rw [jsonResult]
    exact last
  -- The result that is due is dumped, whatever calls it makes.
  | result :: _, _, _, 0 => by
    rw [jsonResult]
    exact (toJson_adds result).weaken
  | _ :: results, _, last, earlier + 1 => by
    rw [jsonResult]
    exact jsonResult_adds results last earlier

end

mutual

/-- The text of a value is known without a call where no deferred value stands in such a map. -/
theorem display_settles : (value : Value) → value.dumpsDeferred = false → value.display.Settles
  | .null, _ | .bool _, _ | .int _, _ | .float _, _ | .text _, _ | .deferred .., _ => ⟨_, rfl⟩
  | .list items, quiet => by
    rw [display]
    exact (displayItems_settles items quiet).bind fun _ => Calls.settles_pure _
  | .map entries, quiet => by
    -- A map is shown as its document.
    rw [display]
    exact (toJson_settles (.map entries) (Bool.not_eq_eq_eq_not.mp quiet)).bind fun _ =>
      Calls.settles_pure _

/-- The texts of values are known without a call where none has a deferred value in such a map. -/
theorem displayItems_settles : (items : List Value) → dumpDeferred items = false →
    (displayItems items).Settles
  | [], _ => ⟨_, rfl⟩
  | item :: items, quiet => by
    obtain ⟨first, rest⟩ := Bool.or_eq_false_iff.mp quiet
    have shown := display_settles item first
    have more := displayItems_settles items rest
    -- Null shows nothing, and all others show their texts.
    cases item with
    | null =>
      rw [displayItems]
      exact more.bind fun _ => Calls.settles_pure _
    | _ =>
      rw [displayItems]
      · exact shown.bind fun _ => more.bind fun _ => Calls.settles_pure _
      · exact nofun

end

mutual

/-- Showing a value makes a call where a deferred value stands in such a map. -/
theorem display_adds : (value : Value) → value.display.Adds value.dumpsDeferred
  | .null | .bool _ | .int _ | .float _ | .text _ | .deferred .. => Calls.adds_pure _
  -- Showing a list is showing its items.
  | .list items => by
    rw [display]
    exact (displayItems_adds items).map _
  | .map entries => by
    rw [display]
    exact (toJson_adds (.map entries)).map _

/-- Showing values makes a call where one of them has a deferred value in such a map. -/
theorem displayItems_adds : (items : List Value) → (displayItems items).Adds (dumpDeferred items)
  | [] => Calls.adds_pure _
  | item :: items => by
    -- Null is passed over, and any other item is shown first.
    have shown := display_adds item
    have more := displayItems_adds items
    cases item with
    | null =>
      show (displayItems (.null :: items)).Adds (dumpDeferred items)
      rw [displayItems]
      exact more.map _
    | _ =>
      rw [displayItems, dumpDeferred]
      · exact shown.bind fun _ => more.map _
      · exact nofun

end

end Value

end TextTemplate
