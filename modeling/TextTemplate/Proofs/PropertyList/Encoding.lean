import TextTemplate.Proofs.Entries
import TextTemplate.Proofs.Text.Blank
import TextTemplate.PropertyList

/-! Property lists are written so that they are read back as the same pairs. -/

namespace TextTemplate.PropertyList

/-- A character of a key or a value: a backslash stands before each that would mean something. -/
def escape (c : Char) : List Char :=
  if c = '\\' ∨ c = '=' ∨ c = ';' then ['\\', c] else [c]

/-- A pair with an equals sign between its key and its value. -/
def writePair : String × String → List Char
  | (key, value) => key.toList.flatMap escape ++ '=' :: value.toList.flatMap escape

/-- Pairs with semicolons between them. -/
def encode (entries : Entries String) : String :=
  .ofList ([';'].intercalate (entries.map writePair))

/-- A key that a list can hold: it is not empty, and no white space surrounds it. -/
structure IsKey (key : String) : Prop where
  nonempty : key ≠ ""
  trimmed : trim key.toList = key.toList

/-- Pairs that a list can hold: their keys are distinct, and a list can hold each of them. -/
structure IsProper (entries : Entries String) : Prop where
  distinct : entries.keys.Nodup
  isKey : ∀ key ∈ entries.keys, IsKey key

variable {entries pairs : Entries String} {key value : String} {progress : Progress}

/-- A character that is written stands for itself. -/
theorem symbols_escape (c : Char) (rest : List Char) :
    symbols (escape c ++ rest) = .char c :: symbols rest := by
  unfold escape
  by_cases special : c = '\\' ∨ c = '=' ∨ c = ';'
  · rw [if_pos special]
    -- Behind a backslash these three stay as they are.
    rcases special with rfl | rfl | rfl <;> rfl
  · rw [if_neg special]
    simp only [not_or] at special
    simp [symbols, special]

/-- Characters that are written stand for themselves. -/
theorem symbols_escaped (cs rest : List Char) :
    symbols (cs.flatMap escape ++ rest) = cs.map .char ++ symbols rest := by
  -- One character after the other is read as itself.
  induction cs with
  | nil => rfl
  | cons c cs ih =>
    rw [List.flatMap_cons, List.append_assoc, symbols_escape, ih, List.map_cons, List.cons_append]

/-- Characters that come add up to a text, which no characters do not begin. -/
theorem foldl_chars (progress : Progress) (cs : List Char) :
    (cs.map Symbol.char).foldl Progress.step progress =
      if cs = [] then progress
      else { progress with part := some (progress.part.getD [] ++ cs) } := by
  induction cs generalizing progress with
  | nil => rfl
  | cons c cs ih =>
    rw [List.map_cons, List.foldl_cons, ih, if_neg (List.cons_ne_nil c cs)]
    -- The first character begins the text, and the others follow it.
    by_cases single : cs = []
    · rw [if_pos single, single]
      rfl
    · rw [if_neg single]
      simp [Progress.step]

/-- A pair that is written is read up to its value, of which nothing is kept when it is empty. -/
theorem foldl_pair (isKey : IsKey key) (value : String) (rest : List Char) :
    (symbols (writePair (key, value) ++ rest)).foldl Progress.step ⟨entries, none, none⟩ =
      (symbols rest).foldl Progress.step
        ⟨entries, some key, if value.toList = [] then none else some value.toList⟩ := by
  -- A key is not empty, so that there is text when the equals sign comes.
  have nonempty : key.toList ≠ [] := mt String.toList_eq_nil_iff.mp isKey.nonempty
  have named : keyText key.toList = key := by
    rw [keyText, isKey.trimmed, String.ofList_toList]
  have assign (cs : List Char) : symbols ('=' :: cs) = .assign :: symbols cs := rfl
  rw [writePair, List.append_assoc, symbols_escaped, List.foldl_append, foldl_chars,
    if_neg nonempty, List.cons_append, assign, symbols_escaped, List.foldl_cons,
    List.foldl_append, foldl_chars]
  -- The equals sign moves the text to the key, and the value begins anew.
  simp only [Progress.step, Option.getD_none, List.nil_append, named]
  split <;> rfl

/-- A pair that has been read up to its value is added. -/
theorem finish_pair (isKey : IsKey key) (value : String) :
    Progress.finish ⟨entries, some key, if value.toList = [] then none else some value.toList⟩ =
      entries.insert key value := by
  -- No value and an empty one are finished alike.
  have kept : (if value.toList = [] then none else some value.toList).getD [] = value.toList := by
    by_cases empty : value.toList = []
    · rw [if_pos empty, empty, Option.getD_none]
    · rw [if_neg empty, Option.getD_some]
  simp only [Progress.finish]
  rw [kept, commit, if_neg isKey.nonempty, String.ofList_toList]

/-- Pairs that are written are added one after the other. -/
theorem finish_written (isKey : ∀ key ∈ pairs.keys, IsKey key) :
    ((symbols ([';'].intercalate (pairs.map writePair))).foldl Progress.step
      ⟨entries, none, none⟩).finish = entries.insertAll pairs := by
  induction pairs generalizing entries with
  | nil => rfl
  | cons pair pairs ih =>
    obtain ⟨key, value⟩ := pair
    have first : IsKey key := isKey key List.mem_cons_self
    have others : ∀ key ∈ Entries.keys pairs, IsKey key := by
      intro key member
      exact isKey key (List.mem_cons_of_mem _ member)
    cases pairs with
    | nil =>
      -- The last pair ends where the text does.
      have read : (symbols (writePair (key, value) ++ [])).foldl Progress.step
          ⟨entries, none, none⟩ = _ := foldl_pair first value []
      rw [List.append_nil] at read
      rw [List.map_singleton, List.intercalate_singleton, read]
      exact finish_pair first value
    | cons next pairs =>
      -- The semicolon ends the pair, and the others are read from the start.
      have separator (cs : List Char) : symbols (';' :: cs) = .separator :: symbols cs := rfl
      rw [List.map_cons, List.intercalate_cons_of_ne_nil (by simp), List.append_assoc,
        foldl_pair first, List.singleton_append, separator, List.foldl_cons, Progress.step,
        finish_pair first, ih others, ← Entries.insertAll_cons]

/-- A list that is written from pairs holds each key where it first comes. -/
theorem decode_encode (isKey : ∀ key ∈ entries.keys, IsKey key) :
    decode (encode entries) = Entries.ofList entries := by
  -- Reading starts with no pairs.
  rw [decode, encode, String.toList_ofList]
  exact finish_written isKey

/-- A key is left alone when the white space around it is dropped once more. -/
theorem trim_keyText (part : List Char) : trim (keyText part).toList = (keyText part).toList := by
  rw [keyText, String.toList_ofList, trim_trim]

/-- A pair is added under a key that a list can hold, or not at all. -/
theorem IsProper.commit (proper : IsProper entries) (trimmed : trim key.toList = key.toList)
    (value : String) : IsProper (commit entries key value) := by
  unfold PropertyList.commit
  -- A pair without a key is dropped.
  by_cases empty : key = ""
  · rwa [if_pos empty]
  · rw [if_neg empty]
    refine ⟨Entries.nodup_insert proper.distinct key value, ?_⟩
    intro name member
    -- The only name that may be new is the key.
    rw [Entries.keys_insert] at member
    split at member
    · exact proper.isKey name member
    · rcases List.mem_append.mp member with known | same
      · exact proper.isKey name known
      · rw [List.mem_singleton.mp same]
        exact ⟨empty, trimmed⟩

/-- A list can hold the pairs that are complete, and no white space surrounds the next key. -/
structure Progress.IsProper (progress : Progress) : Prop where
  entries : PropertyList.IsProper progress.entries
  trimmed : ∀ key ∈ progress.key, trim key.toList = key.toList

/-- A list can hold the pairs when the last one ends. -/
theorem Progress.IsProper.finish (proper : progress.IsProper) :
    PropertyList.IsProper progress.finish := by
  unfold Progress.finish
  cases named : progress.key with
  | some key => exact proper.entries.commit (proper.trimmed key named) _
  | none =>
    -- Without an equals sign the text is the key, if there is one.
    cases progress.part with
    | some part => exact proper.entries.commit (trim_keyText part) _
    | none => exact proper.entries

/-- Reading one sign keeps the pairs to those that a list can hold. -/
theorem Progress.IsProper.step (proper : progress.IsProper) (symbol : Symbol) :
    (progress.step symbol).IsProper := by
  cases symbol with
  -- A pair is finished, and the next one has no key yet.
  | separator => exact ⟨proper.finish, nofun⟩
  | char c => exact ⟨proper.entries, proper.trimmed⟩
  | assign =>
    simp only [Progress.step]
    split
    · exact ⟨proper.entries, proper.trimmed⟩
    · -- The text becomes a key, without the white space around it.
      refine ⟨proper.entries, ?_⟩
      intro key named
      rw [← Option.mem_some.mp named]
      exact trim_keyText _

/-- Reading signs keeps the pairs to those that a list can hold. -/
theorem Progress.IsProper.foldl (proper : progress.IsProper) (signs : List Symbol) :
    (signs.foldl Progress.step progress).IsProper := by
  -- Each sign keeps the pairs proper.
  induction signs generalizing progress with
  | nil => exact proper
  | cons symbol signs ih => exact ih (proper.step symbol)

/-- A list can hold no pairs, and no key has come yet. -/
theorem Progress.isProper_start : Progress.start.IsProper :=
  ⟨⟨List.nodup_nil, by simp [Progress.start]⟩, by simp [Progress.start]⟩

/-- Every text is read as pairs that a list can hold. -/
theorem isProper_decode (source : String) : IsProper (decode source) :=
  -- It holds at the start, of each sign, and at the end.
  (Progress.isProper_start.foldl _).finish

/-- Pairs that a list can hold are read back in the same order from what is written of them, and
every text is read as such pairs. -/
theorem decode_encode_inverse :
    (∀ entries, IsProper entries → decode (encode entries) = entries) ∧
      ∀ source, IsProper (decode source) ∧ decode (encode (decode source)) = decode source := by
  -- Distinct keys stay where they are, so that the pairs are the same.
  have inverse : ∀ entries, IsProper entries → decode (encode entries) = entries := by
    intro entries proper
    rw [decode_encode proper.isKey, Entries.ofList_eq_self proper.distinct]
  refine ⟨inverse, ?_⟩
  intro source
  have proper := isProper_decode source
  exact ⟨proper, inverse _ proper⟩

/-- Keys and values may hold the signs of a list, and values may be empty or begin with a space. -/
theorem decode_encode_inverse_signs :
    ∃ entries : Entries String, entries = [("a=b", " ;\\\n"), ("c", "")] ∧
      encode entries = "a\\=b= \\;\\\\\n;c=" ∧ decode (encode entries) = entries := by
  refine ⟨_, rfl, by decide +kernel, decode_encode_inverse.1 _ ⟨by decide, ?_⟩⟩
  -- Both keys are proper, whatever signs they hold.
  intro key member
  have : key = "a=b" ∨ key = "c" := by simpa using member
  rcases this with rfl | rfl
  · exact ⟨by decide, by decide⟩
  · exact ⟨by decide, by decide⟩

end TextTemplate.PropertyList
