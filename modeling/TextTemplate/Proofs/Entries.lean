import Mathlib.Data.List.Induction
import TextTemplate.Entries

/-! Putting a value under a name keeps all names distinct and in their order. -/

namespace TextTemplate.Entries

variable {α : Type} {entries : Entries α} {key : String}

@[simp] theorem keys_nil : keys ([] : Entries α) = [] := rfl

@[simp] theorem keys_cons (name : String) (value : α) (rest : Entries α) :
    keys ((name, value) :: rest) = name :: keys rest := rfl

@[simp] theorem keys_append (front back : Entries α) :
    keys (front ++ back) = keys front ++ keys back :=
  List.map_append

theorem insertAll_cons (entries added : Entries α) (key : String) (value : α) :
    entries.insertAll ((key, value) :: added) = (entries.insert key value).insertAll added := rfl

/-- A value under a new name comes last. -/
theorem insert_new (fresh : key ∉ entries.keys) (value : α) :
    entries.insert key value = entries ++ [(key, value)] := by
  -- The search for the name runs to the end.
  induction entries with
  | nil => rfl
  | cons entry rest ih =>
    obtain ⟨name, old⟩ := entry
    obtain ⟨differs, absent⟩ := not_or.mp (mt List.mem_cons.mpr fresh)
    rw [insert, if_neg (Ne.symm differs), ih absent, List.cons_append]

/-- A name that has a place keeps it, and a new one comes last. -/
theorem keys_insert (entries : Entries α) (key : String) (value : α) :
    (entries.insert key value).keys =
      if key ∈ entries.keys then entries.keys else entries.keys ++ [key] := by
  by_cases known : key ∈ entries.keys
  · rw [if_pos known]
    induction entries with
    | nil => exact absurd known List.not_mem_nil
    | cons entry rest ih =>
      obtain ⟨name, old⟩ := entry
      unfold insert
      by_cases same : name = key
      · -- The value changes where the name stands.
        rw [if_pos same, keys_cons, keys_cons]
      · have onward : key ∈ keys rest := (List.mem_cons.mp known).resolve_left (Ne.symm same)
        rw [if_neg same, keys_cons, keys_cons, ih onward]
  · rw [if_neg known, insert_new known, keys_append, keys_cons, keys_nil]

/-- The value under a name is that of the first entry with the name. -/
theorem get?_cons (name other : String) (value : α) (rest : Entries α) :
    get? ((name, value) :: rest) other =
      if other = name then some value else get? rest other := by
  -- The search compares with the first name, and goes on where it differs.
  by_cases same : other = name
  · rw [if_pos same, get?, same, List.lookup_cons_self]
  · have differs : (other == name) = false := beq_eq_false_iff_ne.mpr same
    rw [if_neg same, get?, List.lookup_cons, differs]
    rfl

/-- The value under a name is found in front, or else behind. -/
theorem get?_append (front back : Entries α) (key : String) :
    get? (front ++ back) key = (front.get? key).or (back.get? key) :=
  -- A search in two lists is one in the first and then in the second.
  List.lookup_append

/-- No value is found exactly where the name is none of those that are there. -/
theorem get?_eq_none_iff : entries.get? key = none ↔ key ∉ entries.keys := by
  induction entries with
  | nil => simp [get?]
  | cons entry rest ih =>
    obtain ⟨name, value⟩ := entry
    -- The first name settles the search, or the others do.
    by_cases same : key = name
    · simp [get?_cons, same]
    · simp [get?_cons, same, ih]

/-- A value is found under a name exactly where no entry in front of it has the name. -/
theorem get?_eq_some_iff {value : α} :
    entries.get? key = some value ↔
      ∃ front back, entries = front ++ (key, value) :: back ∧ key ∉ keys front := by
  induction entries with
  | nil => simp [get?]
  | cons entry rest ih =>
    obtain ⟨name, first⟩ := entry
    rw [get?_cons]
    -- The first entry is the one that is found, or it stands in front of that one.
    by_cases same : key = name
    · subst same
      rw [if_pos rfl]
      constructor
      · intro found
        cases found
        exact ⟨[], rest, rfl, List.not_mem_nil⟩
      · intro found
        obtain ⟨front, back, split, absent⟩ := found
        -- Nothing stands in front of the first entry.
        cases front with
        | nil =>
          cases split
          rfl
        | cons entry front =>
          cases split
          simp at absent
    · rw [if_neg same, ih]
      constructor
      · intro found
        obtain ⟨front, back, rfl, absent⟩ := found
        exact ⟨(name, first) :: front, back, rfl, by simp [same, absent]⟩
      · intro found
        obtain ⟨front, back, split, absent⟩ := found
        -- The first entry has another name, so that it stands in front.
        cases front with
        | nil =>
          cases split
          contradiction
        | cons entry front =>
          cases split
          simp only [keys_cons, List.mem_cons, not_or] at absent
          exact ⟨front, back, rfl, absent.2⟩

/-- A value that is found is that of an entry. -/
theorem mem_of_get? {value : α} (found : entries.get? key = some value) :
    (key, value) ∈ entries := by
  -- What is found stands between a front and a back.
  obtain ⟨front, back, rfl, -⟩ := get?_eq_some_iff.mp found
  simp

/-- Under distinct names every entry is found. -/
theorem get?_of_mem (distinct : entries.keys.Nodup) {value : α} (member : (key, value) ∈ entries) :
    entries.get? key = some value := by
  obtain ⟨front, back, rfl⟩ := List.append_of_mem member
  refine get?_eq_some_iff.mpr ⟨front, back, rfl, fun earlier => ?_⟩
  -- A second entry with the name would stand in front.
  rw [keys_append] at distinct
  exact (List.nodup_append.mp distinct).2.2 key earlier key List.mem_cons_self rfl

/-- A value that is put under a name is found there, and nothing else changes. -/
theorem get?_insert (entries : Entries α) (key name : String) (value : α) :
    (entries.insert key value).get? name =
      if name = key then some value else entries.get? name := by
  induction entries with
  | nil => rw [insert, get?_cons]
  | cons entry rest ih =>
    obtain ⟨first, old⟩ := entry
    unfold insert
    by_cases same : first = key
    · -- The value changes where the name stands.
      subst same
      rw [if_pos rfl, get?_cons, get?_cons]
      split <;> rfl
    · rw [if_neg same, get?_cons, get?_cons, ih]
      by_cases found : name = first
      · rw [if_pos found, if_pos found, if_neg (found ▸ same)]
      · rw [if_neg found, if_neg found]

/-- Distinct names stay distinct. -/
theorem nodup_insert (distinct : entries.keys.Nodup) (key : String) (value : α) :
    (entries.insert key value).keys.Nodup := by
  rw [keys_insert]
  by_cases known : key ∈ entries.keys
  · rwa [if_pos known]
  · rw [if_neg known]
    refine List.nodup_append.mpr ⟨distinct, by simp, ?_⟩
    -- The new name is none of those before it.
    intro name member other single same
    rw [same, List.mem_singleton.mp single] at member
    exact known member

/-- Entries under new and distinct names are put behind the others in order. -/
theorem insertAll_new {added : Entries α} (distinct : added.keys.Nodup)
    (fresh : ∀ key ∈ added.keys, key ∉ entries.keys) :
    entries.insertAll added = entries ++ added := by
  induction added generalizing entries with
  | nil => exact (List.append_nil entries).symm
  | cons entry rest ih =>
    obtain ⟨key, value⟩ := entry
    obtain ⟨apart, distinct⟩ := List.nodup_cons.mp distinct
    -- The first entry comes last, and the others behind it.
    have first := insert_new (fresh key List.mem_cons_self) value
    -- The names behind the first are new beside it as well.
    have onward : ∀ name ∈ keys rest, name ∉ keys (entries ++ [(key, value)]) := by
      intro name member known
      rw [keys_append] at known
      rcases List.mem_append.mp known with known | same
      · exact fresh name (List.mem_cons_of_mem key member) known
      · rw [List.mem_singleton.mp same] at member
        exact apart member
    rw [insertAll_cons, first, ih distinct onward, List.append_assoc, List.singleton_append]

/-- Entries under distinct names are the list of them. -/
theorem ofList_eq_self (distinct : entries.keys.Nodup) : ofList entries = entries :=
  insertAll_new distinct (by simp)

/-- Names stay distinct when several values are put under theirs. -/
theorem nodup_insertAll (distinct : entries.keys.Nodup) (added : Entries α) :
    (entries.insertAll added).keys.Nodup := by
  -- One entry after the other keeps the names distinct.
  induction added generalizing entries with
  | nil => exact distinct
  | cons entry rest ih => exact ih (nodup_insert distinct entry.1 entry.2)

/-- No name is repeated in a map. -/
theorem nodup_ofList (pairs : List (String × α)) : (ofList pairs).keys.Nodup :=
  -- Nothing has no names, and adding keeps them distinct.
  have none : (keys ([] : Entries α)).Nodup := List.nodup_nil
  nodup_insertAll none pairs

/-- One more value is put under its name behind all others. -/
theorem ofList_snoc (pairs : List (String × α)) (key : String) (value : α) :
    ofList (pairs ++ [(key, value)]) = (ofList pairs).insert key value := by
  -- Putting is a fold from the left.
  rw [ofList, ofList, insertAll, List.foldl_append]
  rfl

/-- Names come in the order in which they first stand. -/
theorem keys_ofList (pairs : List (String × α)) :
    (ofList pairs).keys = (pairs.map Prod.fst).eraseDups := by
  induction pairs using List.reverseRecOn with
  | nil => rfl
  | append_singleton pairs entry ih =>
    -- The last name is new, or stands among those before it.
    rw [ofList_snoc, keys_insert, ih, List.map_append, List.eraseDups_append]
    by_cases known : entry.1 ∈ pairs.map Prod.fst
    · have none : [entry.1].removeAll (pairs.map Prod.fst) = [] := by
        simpa [List.removeAll] using known
      rw [if_pos (List.mem_eraseDups.mpr known), List.map_singleton, none, List.eraseDups_nil,
        List.append_nil]
    · have all : [entry.1].removeAll (pairs.map Prod.fst) = [entry.1] := by
        simpa [List.removeAll] using known
      rw [if_neg (mt List.mem_eraseDups.mp known), List.map_singleton, all]
      rfl

/-- The value under a name is that of the last pair with the name. -/
theorem get?_ofList (pairs : List (String × α)) (key : String) :
    (ofList pairs).get? key = get? pairs.reverse key := by
  -- The last pair is put last, and it hides those before it.
  induction pairs using List.reverseRecOn with
  | nil => rfl
  | append_singleton pairs entry ih =>
    rw [ofList_snoc, get?_insert, List.reverse_append, ih]
    exact (get?_cons entry.1 key entry.2 pairs.reverse).symm

/-- An entry is one of the pairs that were put under their names. -/
theorem mem_of_mem_ofList {pairs : List (String × α)} {entry : String × α}
    (member : entry ∈ ofList pairs) : entry ∈ pairs := by
  -- An entry is found under its name, and what is found is one of the pairs.
  have found := get?_of_mem (nodup_ofList pairs) member
  rw [get?_ofList] at found
  exact List.mem_reverse.mp (mem_of_get? found)

/-- Names that have a place keep it, and the others come behind them in their own order. -/
theorem keys_insertAll {added : Entries α} (distinct : added.keys.Nodup) :
    (entries.insertAll added).keys =
      entries.keys ++ added.keys.filter fun key => decide (key ∉ entries.keys) := by
  induction added generalizing entries with
  | nil => simp [insertAll]
  | cons entry rest ih =>
    obtain ⟨first, value⟩ := entry
    obtain ⟨apart, distinct⟩ := List.nodup_cons.mp distinct
    rw [insertAll_cons, ih distinct, keys_insert, keys_cons]
    -- A known name has its place already, and a new one gets the next.
    by_cases known : first ∈ entries.keys
    · simp [known]
    · -- No later name is the first one, so that it counts as new beside it as well.
      have later : ∀ name ∈ keys rest, decide (name ∉ entries.keys ++ [first]) =
          decide (name ∉ entries.keys) := by
        intro name member
        have other : name ≠ first := fun same => apart (same ▸ member)
        simp [other]
      rw [if_neg known, List.filter_congr later]
      simp [known]

/-- Under each name the added value is found, or else the one that was there before. -/
theorem get?_insertAll {added : Entries α} (distinct : added.keys.Nodup) (name : String) :
    (entries.insertAll added).get? name = (added.get? name).or (entries.get? name) := by
  induction added generalizing entries with
  | nil => rfl
  | cons entry rest ih =>
    obtain ⟨first, value⟩ := entry
    obtain ⟨apart, distinct⟩ := List.nodup_cons.mp distinct
    rw [insertAll_cons, ih distinct, get?_insert, get?_cons]
    by_cases same : name = first
    · -- No later entry has the first name, so that its value stays.
      have absent : get? rest name = none := get?_eq_none_iff.mpr (same ▸ apart)
      rw [if_pos same, if_pos same, absent, Option.none_or, Option.some_or]
    -- Another name is found as before.
    · rw [if_neg same, if_neg same]

/-- Entries are known by their names in order and by the value under each of them. -/
theorem eq_of_get? {others : Entries α} (distinct : entries.keys.Nodup)
    (names : entries.keys = others.keys)
    (values : ∀ key, entries.get? key = others.get? key) : entries = others := by
  induction entries generalizing others with
  | nil =>
    cases others with
    | nil => rfl
    | cons => contradiction
  | cons entry rest ih =>
    obtain ⟨name, value⟩ := entry
    cases others with
    | nil => contradiction
    | cons other others =>
      obtain ⟨same, found⟩ := other
      obtain ⟨rfl, onward⟩ : name = same ∧ keys rest = keys others := List.cons.inj names
      obtain ⟨apart, distinct⟩ := List.nodup_cons.mp distinct
      -- The first name has the same value on both sides, and the others agree behind it.
      have first := values name
      rw [get?_cons, get?_cons, if_pos rfl, if_pos rfl] at first
      cases first
      congr 1
      apply ih distinct onward
      intro key
      by_cases head : key = name
      · subst head
        rw [get?_eq_none_iff.mpr apart, get?_eq_none_iff.mpr (onward ▸ apart)]
      · have later := values key
        rwa [get?_cons, get?_cons, if_neg head, if_neg head] at later

/-- Changing the last value of a name is putting the new value under it. -/
theorem ofList_change {front back : List (String × α)} (last : key ∉ back.map Prod.fst)
    (old new : α) :
    ofList (front ++ (key, new) :: back) =
      (ofList (front ++ (key, old) :: back)).insert key new := by
  refine eq_of_get? (nodup_ofList _) ?_ fun name => ?_
  · -- The names are the same, and the one that is put is among them.
    have known : key ∈ (ofList (front ++ (key, old) :: back)).keys := by
      rw [keys_ofList, List.mem_eraseDups]
      simp
    rw [keys_insert, if_pos known, keys_ofList, keys_ofList, List.map_append, List.map_append,
      List.map_cons, List.map_cons]
  · have absent : get? back.reverse key = none := by
      rw [get?_eq_none_iff, keys, List.map_reverse, List.mem_reverse]
      exact last
    rw [get?_insert, get?_ofList, get?_ofList]
    simp only [List.reverse_append, List.reverse_cons, List.append_assoc, get?_append, get?_cons]
    -- Nothing behind the pair has its name.
    by_cases same : name = key
    · subst same
      simp [absent]
    · simp [same]

/-- A value is put under a name before or after the entries that hold it are added to others. -/
theorem insertAll_insert {added : Entries α} (distinct : entries.keys.Nodup)
    (apart : added.keys.Nodup) (key : String) (value : α) :
    entries.insertAll (added.insert key value) =
      (entries.insertAll added).insert key value := by
  -- Both sides have the same names in order and the same value under each.
  have inserted := nodup_insert apart key value
  refine eq_of_get? (nodup_insertAll distinct _) ?_ ?_
  · -- A name comes last only where neither side has it.
    rw [keys_insertAll inserted, keys_insert, keys_insert, keys_insertAll apart]
    by_cases known : key ∈ added.keys
    · have found : key ∈ entries.keys ++
          added.keys.filter fun name => decide (name ∉ entries.keys) := by
        by_cases front : key ∈ entries.keys
        · simp [front]
        · simp [front, known]
      rw [if_pos known, if_pos found]
    · rw [if_neg known]
      by_cases front : key ∈ entries.keys
      · simp [front]
      · simp [front, known]
  · intro name
    rw [get?_insertAll inserted, get?_insert, get?_insert, get?_insertAll apart]
    split <;> rfl

end TextTemplate.Entries
