import TextTemplate.Proofs.Entries
import TextTemplate.Value.Basic

/-! The items of lists and the entries of maps are the members of values: an induction over values
goes through them, and so does what is asked of the maps at every depth. -/

namespace TextTemplate.Value

/-- What holds of a list and of a map when it holds of all members holds of every value.

The results of a deferred value are no members of it. -/
@[elab_as_elim]
theorem member_induction {motive : Value → Prop} (null : motive .null)
    (bool : ∀ b, motive (.bool b)) (int : ∀ n, motive (.int n)) (float : ∀ x, motive (.float x))
    (text : ∀ s, motive (.text s))
    (list : ∀ items, (∀ item ∈ items, motive item) → motive (.list items))
    (map : ∀ entries, (∀ entry ∈ entries, motive entry.2) → motive (.map entries))
    (deferred : ∀ id early steady, motive (.deferred id early steady)) (value : Value) :
    motive value :=
  -- The results of a deferred value are no members, so that nothing is asked of them.
  @Value.rec motive (fun items => ∀ item ∈ items, motive item)
    (fun entries => ∀ entry ∈ entries, motive entry.2) (fun entry => motive entry.2)
    null bool int float text list map (fun id early steady _ _ => deferred id early steady)
    nofun (fun _ _ first rest => List.forall_mem_cons.mpr ⟨first, rest⟩)
    nofun (fun _ _ first rest => List.forall_mem_cons.mpr ⟨first, rest⟩)
    (fun _ _ second => second) value

mutual

/-- Whether no map in a value has a name twice. -/
def HasDistinctKeys : Value → Prop
  | .list items => HaveDistinctKeys items
  | .map entries => (Entries.keys entries).Nodup ∧ HoldDistinctKeys entries
  | _ => True

/-- Whether no map in any of several values has a name twice. -/
def HaveDistinctKeys : List Value → Prop
  | [] => True
  | item :: items => HasDistinctKeys item ∧ HaveDistinctKeys items

/-- Whether no map in any of several entries has a name twice. -/
def HoldDistinctKeys : List (String × Value) → Prop
  | [] => True
  | (_, value) :: entries => HasDistinctKeys value ∧ HoldDistinctKeys entries

end

/-- The maps in several values are those in each of them. -/
theorem haveDistinctKeys_iff {items : List Value} :
    HaveDistinctKeys items ↔ ∀ item ∈ items, item.HasDistinctKeys := by
  -- The definition goes through the items one by one.
  induction items with
  | nil => simp [HaveDistinctKeys]
  | cons item items ih => simp [HaveDistinctKeys, ih]

/-- The maps in several entries are those in each of them. -/
theorem holdDistinctKeys_iff {entries : List (String × Value)} :
    HoldDistinctKeys entries ↔ ∀ entry ∈ entries, entry.2.HasDistinctKeys := by
  -- The definition goes through the entries one by one.
  induction entries with
  | nil => simp [HoldDistinctKeys]
  | cons entry entries ih => simp [HoldDistinctKeys, ih]

end TextTemplate.Value
