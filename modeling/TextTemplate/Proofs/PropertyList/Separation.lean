import Mathlib.Algebra.Group.Nat.Even
import Mathlib.Data.List.DropRight
import TextTemplate.Proofs.PropertyList.Encoding

/-! Property lists with a semicolon between them are read one after the other. -/

namespace TextTemplate.PropertyList

/-- How many backslashes a text ends in. -/
def trailingBackslashes (cs : List Char) : Nat :=
  (cs.rtakeWhile (· = '\\')).length

/-- A list that is read behind pairs that are complete. -/
def Progress.behind (complete : Entries String) (progress : Progress) : Progress :=
  { progress with entries := complete.insertAll progress.entries }

variable {front : List Char} {c : Char} {entries pairs : Entries String} {progress : Progress}

theorem trailingBackslashes_nil : trailingBackslashes [] = 0 := rfl

/-- A backslash at the end counts in addition, and any other character leaves none to count. -/
theorem trailingBackslashes_snoc (front : List Char) (c : Char) :
    trailingBackslashes (front ++ [c]) =
      if c = '\\' then trailingBackslashes front + 1 else 0 := by
  -- The count runs from the end, where the character stands.
  unfold trailingBackslashes
  by_cases backslash : c = '\\'
  · simp [backslash]
  · simp [backslash]

/-- An escape at the end keeps the backslashes there even. -/
theorem even_trailing_snoc_escape (c : Char) (front : List Char)
    (even : Even (trailingBackslashes front)) :
    Even (trailingBackslashes (front ++ ['\\', c])) := by
  -- The escape ends in two more backslashes, or in a character that is none.
  rw [List.append_cons, trailingBackslashes_snoc, trailingBackslashes_snoc, if_pos rfl]
  split
  · simpa [Nat.even_add_one] using even
  · decide

/-- A character in front that is no backslash changes nothing at the end. -/
theorem trailingBackslashes_cons (ordinary : c ≠ '\\') (rest : List Char) :
    trailingBackslashes (c :: rest) = trailingBackslashes rest := by
  -- The induction takes characters off the end, because the count does.
  induction rest using List.reverseRecOn with
  | nil => exact (trailingBackslashes_snoc [] c).trans (if_neg ordinary)
  | append_singleton rest last ih =>
    rw [← List.cons_append, trailingBackslashes_snoc, trailingBackslashes_snoc, ih]

/-- An escape in front does not change whether the backslashes at the end are evenly many. -/
theorem even_trailing_escape (c : Char) (rest : List Char) :
    Even (trailingBackslashes ('\\' :: c :: rest)) ↔ Even (trailingBackslashes rest) := by
  induction rest using List.reverseRecOn with
  | nil =>
    -- An escape of its own ends in two backslashes or in none.
    have count : trailingBackslashes ['\\', c] = if c = '\\' then 2 else 0 :=
      trailingBackslashes_snoc ['\\'] c
    rw [count, trailingBackslashes_nil]
    split <;> decide
  | append_singleton rest last ih =>
    rw [← List.cons_append, ← List.cons_append, trailingBackslashes_snoc,
      trailingBackslashes_snoc]
    split
    · rw [Nat.even_add_one, Nat.even_add_one, ih]
    · rfl

/-- A character that is no backslash alone and begins no escape is no backslash. -/
theorem ne_backslash {rest : List Char} (alone : c = '\\' → rest = [] → False)
    (escape : ∀ d more, c = '\\' → rest = d :: more → False) : c ≠ '\\' := by
  -- A backslash is either alone or the start of an escape.
  intro backslash
  cases rest with
  | nil => exact alone backslash rfl
  | cons d more => exact escape d more backslash rfl

/-- A character that is no sign stands for itself. -/
theorem symbols_char (ordinary : c ≠ '\\') (separator : c ≠ ';') (assign : c ≠ '=')
    (rest : List Char) : symbols (c :: rest) = .char c :: symbols rest := by
  simp [symbols, ordinary]

/-- Signs are read in two parts where no escape stands across them. -/
theorem symbols_append (even : Even (trailingBackslashes front)) (back : List Char) :
    symbols (front ++ back) = symbols front ++ symbols back := by
  -- Each case takes one sign off the front, which leaves the backslashes at the end even.
  fun_induction symbols front with
  | case1 => rfl
  | case2 =>
    -- A backslash alone would act on what follows.
    have odd : trailingBackslashes ['\\'] = 1 := rfl
    simp [odd] at even
  | case3 c rest ih =>
    rw [even_trailing_escape] at even
    simp [symbols, ih even]
  | case4 rest ih =>
    rw [trailingBackslashes_cons (by decide)] at even
    simp [symbols, ih even]
  | case5 rest ih =>
    rw [trailingBackslashes_cons (by decide)] at even
    simp [symbols, ih even]
  | case6 c rest single escape separator assign ih =>
    have ordinary := ne_backslash single escape
    rw [trailingBackslashes_cons ordinary] at even
    rw [List.cons_append, symbols_char ordinary separator assign, ih even, List.cons_append]

/-- A pair is added behind pairs that are complete as on its own. -/
theorem commit_insertAll (distinct : entries.keys.Nodup) (apart : pairs.keys.Nodup)
    (key value : String) :
    commit (entries.insertAll pairs) key value = entries.insertAll (commit pairs key value) := by
  unfold commit
  -- Both sides leave the pair out, or both put it in.
  by_cases empty : key = ""
  · rw [if_pos empty, if_pos empty]
  · rw [if_neg empty, if_neg empty, Entries.insertAll_insert distinct apart]

/-- A pair ends behind pairs that are complete as on its own. -/
theorem finish_behind (distinct : entries.keys.Nodup) (proper : progress.IsProper) :
    (progress.behind entries).finish = entries.insertAll progress.finish := by
  have added := commit_insertAll distinct proper.entries.distinct
  simp only [Progress.finish, Progress.behind]
  -- At most one pair is added, under the key or under the text alone.
  cases progress.key with
  | some key => exact added key _
  | none =>
    cases progress.part with
    | some part => exact added (keyText part) ""
    | none => rfl

/-- One sign is read behind pairs that are complete as on its own. -/
theorem step_behind (distinct : entries.keys.Nodup) (proper : progress.IsProper)
    (sign : Symbol) :
    (progress.behind entries).step sign = (progress.step sign).behind entries := by
  cases sign with
  | separator =>
    -- Only a separator adds a pair.
    simp only [Progress.step, finish_behind distinct proper]
    rfl
  | char c => rfl
  | assign =>
    simp only [Progress.step, Progress.behind]
    cases progress.part <;> rfl

/-- Signs are read behind pairs that are complete as on their own. -/
theorem foldl_behind (distinct : entries.keys.Nodup) (proper : progress.IsProper)
    (signs : List Symbol) :
    (signs.foldl Progress.step (progress.behind entries)).finish =
      entries.insertAll (signs.foldl Progress.step progress).finish := by
  -- Each sign keeps the complete pairs in front and the others distinct.
  induction signs generalizing progress with
  | nil => exact finish_behind distinct proper
  | cons sign signs ih =>
    rw [List.foldl_cons, List.foldl_cons, step_behind distinct proper, ih (proper.step sign)]

/-- A semicolon that is not escaped ends a pair, and what follows is read from the start. -/
theorem decode_append {a : String} (even : Even (trailingBackslashes a.toList)) (b : String) :
    decode (a ++ ";" ++ b) = (decode a).insertAll (decode b) := by
  have text : (a ++ ";" ++ b).toList = a.toList ++ ';' :: b.toList := by simp
  have separator (cs : List Char) : symbols (';' :: cs) = .separator :: symbols cs := rfl
  rw [decode, text, symbols_append even, List.foldl_append, separator, List.foldl_cons,
    Progress.step]
  -- Behind the separator, only the pairs of the first list are kept.
  exact foldl_behind (isProper_decode a).distinct Progress.isProper_start (symbols b.toList)

/-- A backslash at the end of a list has nothing to act on. -/
theorem decode_backslash {a : String} (even : Even (trailingBackslashes a.toList)) :
    decode (a ++ "\\") = decode a := by
  have text : (a ++ "\\").toList = a.toList ++ ['\\'] := by simp
  rw [decode, text, symbols_append even, symbols, List.append_nil, decode]

/-- Lists compose at semicolons that are not escaped.

The pairs of the second list are put behind those of the first one, where a key that is already
there keeps its place and takes the new value, and a backslash at the end means nothing. -/
theorem decode_separated :
    (∀ a b : String, Even (trailingBackslashes a.toList) →
      decode (a ++ ";" ++ b) = (decode a).insertAll (decode b) ∧
      (decode (a ++ ";" ++ b)).keys =
        (decode a).keys ++ (decode b).keys.filter (fun key => decide (key ∉ (decode a).keys)) ∧
      ∀ key, (decode (a ++ ";" ++ b)).get? key =
        ((decode b).get? key).or ((decode a).get? key)) ∧
    ∀ a : String, Even (trailingBackslashes a.toList) → decode (a ++ "\\") = decode a := by
  constructor
  · intro a b even
    -- The second list is put in order behind the first, so that only its own names matter.
    have distinct := (isProper_decode b).distinct
    rw [decode_append even b]
    exact ⟨rfl, Entries.keys_insertAll distinct, Entries.get?_insertAll distinct⟩
  · intro a even
    exact decode_backslash even

/-- Escaped backslashes do not keep a semicolon from ending a pair, and a key comes again. -/
theorem decode_separated_repeated :
    decode ("k=1;m=\\\\" ++ ";" ++ "n;k=2") = [("k", "2"), ("m", "\\"), ("n", "")] ∧
      decode ("k=\\\\" ++ "\\") = decode "k=\\\\" := by
  -- The repeated key keeps its place, and an even count of backslashes is closed.
  constructor
  · rw [(decode_separated.1 "k=1;m=\\\\" "n;k=2" (by decide)).1]
    decide +kernel
  · exact decode_separated.2 "k=\\\\" (by decide)

end TextTemplate.PropertyList
