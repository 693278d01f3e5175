import TextTemplate.Proofs.PropertyList.Separation

/-! One pair of a property list is known by the places of the equals signs that end a key. -/

namespace TextTemplate.PropertyList

/-- Whether a character stands at a place with no backslash that takes away its meaning. -/
def stands (cs : List Char) (c : Char) (place : Nat) : Bool :=
  cs[place]? = some c && decide (Even (trailingBackslashes (cs.take place)))

/-- The places where a character stands with its meaning, in order. -/
def places (cs : List Char) (c : Char) : List Nat :=
  (List.range cs.length).filter (stands cs c)

/-- Whether an equals sign is void: it stands at the start, or directly behind one that is not. -/
def isVoid (cs : List Char) : Nat → Bool
  | 0 => stands cs '=' 0
  | place + 1 => stands cs '=' (place + 1) && (stands cs '=' place && !isVoid cs place)

/-- The places of the equals signs that are effective, which are all those that are not void. -/
def effectivePlaces (cs : List Char) : List Nat :=
  (places cs '=').filter (!isVoid cs ·)

/-- The characters of a stretch, in which void signs are deleted. -/
def stretch (cs : List Char) (start stop : Nat) : List Char :=
  (List.range' start (stop - start)).filterMap fun place =>
    if isVoid cs place then none else cs[place]?

/-- A text without its escapes: a backslash is dropped, and so is a lone one at the end. -/
def unescaped : List Char → List Char
  | [] => []
  | ['\\'] => []
  | '\\' :: 't' :: rest => '\t' :: unescaped rest
  | '\\' :: 'n' :: rest => '\n' :: unescaped rest
  | '\\' :: 'r' :: rest => '\r' :: unescaped rest
  | '\\' :: c :: rest => c :: unescaped rest
  | c :: rest => c :: unescaped rest

/-- The text of a stretch. -/
def textBetween (cs : List Char) (start stop : Nat) : List Char :=
  unescaped (stretch cs start stop)

/-- The place behind the last of several, or the start. -/
def startBehind (places : List Nat) : Nat :=
  (places.getLast?.map (· + 1)).getD 0

/-- The pair of a key and a value, which is absent when the key is empty. -/
def pairOf (key value : List Char) : Entries String :=
  if key = [] then [] else [(String.ofList key, String.ofList value)]

/-- What has been read of one pair, told by the places of the signs in the text so far. -/
structure Tells (cs : List Char) (progress : Progress) : Prop where
  entries : progress.entries = []
  part : progress.part.getD [] = textBetween cs (startBehind (effectivePlaces cs)) cs.length
  unnamed : effectivePlaces cs = [] → progress.key = none
  named : ∀ earlier last, effectivePlaces cs = earlier ++ [last] →
    progress.key = some (keyText (textBetween cs (startBehind earlier) last))

/-- What has been read of one pair where no escape is left open, so that reading can go on. -/
structure Tracks (cs : List Char) (progress : Progress) : Prop extends Tells cs progress where
  even : Even (trailingBackslashes cs)
  evenPart : Even (trailingBackslashes
    (stretch cs (startBehind (effectivePlaces cs)) cs.length))
  /-- No text has come exactly where an equals sign would be void. -/
  part_none : progress.part = none ↔ startBehind (effectivePlaces cs) = cs.length

/-- Characters behind a text are no equals signs, but part of the text between two of them. -/
structure IsText (front more : List Char) : Prop where
  places : effectivePlaces (front ++ more) = effectivePlaces front
  stretch : ∀ start ≤ front.length,
    stretch (front ++ more) start (front ++ more).length =
      stretch front start front.length ++ more

variable {front back more : List Char} {c : Char} {progress next : Progress}

/-- Whether a character stands with its meaning depends on what is in front of it. -/
theorem stands_append {place : Nat} (inside : place < front.length) (c : Char) :
    stands (front ++ back) c place = stands front c place := by
  -- The place and everything in front of it lie within the front.
  rw [stands, stands, List.getElem?_append_left inside,
    List.take_append_of_le_length (Nat.le_of_lt inside)]

/-- A character at the end stands with its meaning where no escape is left open before it. -/
theorem stands_last (front : List Char) (c d : Char) :
    stands (front ++ [c]) d front.length =
      (c = d && decide (Even (trailingBackslashes front))) := by
  -- What stands in front of the last place is the front.
  simp [stands]

/-- A character at the end comes last among the places of its kind. -/
theorem places_snoc (front : List Char) (c d : Char) :
    places (front ++ [c]) d =
      places front d ++ if stands (front ++ [c]) d front.length then [front.length] else [] := by
  -- What comes at the end takes no meaning from what is in front.
  have earlier : (List.range front.length).filter (stands (front ++ [c]) d) =
      places front d := by
    apply List.filter_congr
    intro place member
    exact stands_append (List.mem_range.mp member) d
  rw [places, List.length_append, List.length_singleton, List.range_succ, List.filter_append,
    earlier]
  simp only [List.filter_cons, List.filter_nil]

/-- Whether an equals sign is void depends on what is in front of it. -/
theorem isVoid_append {place : Nat} (inside : place < front.length) :
    isVoid (front ++ back) place = isVoid front place := by
  induction place with
  | zero => exact stands_append inside '='
  | succ place ih =>
    -- The sign before it is further in front.
    have before : place < front.length := by omega
    rw [isVoid, isVoid, stands_append inside, stands_append before, ih before]

/-- Effective signs stand within the text. -/
theorem effectivePlaces_lt {cs : List Char} {place : Nat} (member : place ∈ effectivePlaces cs) :
    place < cs.length := by
  -- Places are drawn from the range of the text.
  have within := List.mem_of_mem_filter (List.mem_of_mem_filter member)
  exact List.mem_range.mp within

/-- An equals sign at the end comes last among the effective ones unless it is void. -/
theorem effectivePlaces_snoc (front : List Char) (c : Char) :
    effectivePlaces (front ++ [c]) = effectivePlaces front ++
      if stands (front ++ [c]) '=' front.length && !isVoid (front ++ [c]) front.length then
        [front.length]
      else [] := by
  -- Signs in front stay as void or effective as they are.
  have earlier : (places front '=').filter (!isVoid (front ++ [c]) ·) = effectivePlaces front := by
    apply List.filter_congr
    intro place member
    have within := List.mem_range.mp (List.mem_of_mem_filter member)
    rw [isVoid_append within]
  rw [effectivePlaces, places_snoc, List.filter_append, earlier]
  -- The last place is kept where it is that of a sign and the sign is not void.
  cases stands (front ++ [c]) '=' front.length with
  | false => simp
  | true => simp [List.filter_cons]

theorem startBehind_snoc (earlier : List Nat) (last : Nat) :
    startBehind (earlier ++ [last]) = last + 1 := by
  -- The last place is the one that counts.
  simp [startBehind]

/-- The text since the last effective sign begins within the text or at its end. -/
theorem startBehind_le (cs : List Char) : startBehind (effectivePlaces cs) ≤ cs.length := by
  -- There is no effective sign, or the last of them stands within the text.
  rcases List.eq_nil_or_concat' (effectivePlaces cs) with none | ⟨earlier, last, split⟩
  · simp [none, startBehind]
  · have member : last ∈ effectivePlaces cs := by simp [split]
    rw [split, startBehind_snoc]
    exact effectivePlaces_lt member

/-- An equals sign at the end is void where no text has come since the last effective sign. -/
theorem isVoid_last (front : List Char) (c : Char) :
    isVoid (front ++ [c]) front.length =
      (stands (front ++ [c]) '=' front.length &&
        decide (startBehind (effectivePlaces front) = front.length)) := by
  -- What decides is the character before the last one, so that one is taken off the end.
  cases front using List.reverseRecOn with
  | nil => simp [isVoid, startBehind, effectivePlaces, places]
  | append_singleton front d =>
    have inside : front.length < (front ++ [d]).length := by simp
    have within := startBehind_le front
    rw [List.length_append, List.length_singleton, isVoid, stands_append inside,
      isVoid_append inside, effectivePlaces_snoc]
    -- Either the character in front is an effective sign, or text has come since the last one.
    cases stands (front ++ [d]) '=' front.length && !isVoid (front ++ [d]) front.length with
    | true => simp [startBehind_snoc]
    | false =>
      have apart : startBehind (effectivePlaces front) ≠ front.length + 1 := by omega
      simp [apart]

/-- A stretch depends on the text up to its end. -/
theorem stretch_append {start stop : Nat} (inside : stop ≤ front.length) :
    stretch (front ++ back) start stop = stretch front start stop := by
  -- No place of the stretch lies behind the front.
  apply List.filterMap_congr
  intro place member
  have bounds := List.mem_range'_1.mp member
  have within : place < front.length := by omega
  rw [isVoid_append within, List.getElem?_append_left within]

theorem stretch_empty (cs : List Char) (start : Nat) : stretch cs start start = [] := by
  simp [stretch]

/-- A character at the end comes last in a stretch unless it is a void sign. -/
theorem stretch_snoc {start : Nat} (inside : start ≤ front.length) (c : Char) :
    stretch (front ++ [c]) start (front ++ [c]).length =
      stretch front start front.length ++
        if isVoid (front ++ [c]) front.length then [] else [c] := by
  -- The stretch is longer by the last place.
  have size : (front ++ [c]).length - start = front.length - start + 1 := by
    rw [List.length_append, List.length_singleton]
    omega
  have stop : start + (front.length - start) = front.length := by omega
  have earlier : (List.range' start (front.length - start)).filterMap (fun place =>
      if isVoid (front ++ [c]) place then none else (front ++ [c])[place]?) =
        stretch front start front.length :=
    stretch_append (Nat.le_refl front.length)
  rw [stretch, size, List.range'_1_concat, List.filterMap_append, earlier, stop]
  split
  · rename_i void
    simp [void]
  · rename_i kept
    simp [kept]

/-- A character that begins no escape stands for itself. -/
theorem unescaped_cons (ordinary : c ≠ '\\') (rest : List Char) :
    unescaped (c :: rest) = c :: unescaped rest := by
  -- All other cases begin with a backslash.
  simp [unescaped, ordinary]

/-- A text is resolved in two parts where no escape stands across them. -/
theorem unescaped_append (even : Even (trailingBackslashes front)) (back : List Char) :
    unescaped (front ++ back) = unescaped front ++ unescaped back := by
  -- As for signs, each case takes a character or an escape off the front.
  fun_induction unescaped front with
  | case1 => rfl
  | case2 =>
    have odd : trailingBackslashes ['\\'] = 1 := rfl
    simp [odd] at even
  | case3 rest ih | case4 rest ih | case5 rest ih =>
    rw [even_trailing_escape] at even
    simp [unescaped, ih even]
  | case6 c rest _ _ _ ih =>
    rw [even_trailing_escape] at even
    simp [unescaped, ih even]
  | case7 c rest single _ _ _ escape ih =>
    have ordinary := ne_backslash single escape
    rw [trailingBackslashes_cons ordinary] at even
    rw [List.cons_append, unescaped_cons ordinary, ih even, List.cons_append]

/-- An escape stands for one character. -/
theorem unescaped_escape (c : Char) : unescaped ['\\', c] = [unescape c] := by
  -- A tab and the two line ends have letters of their own.
  unfold unescape
  split <;> simp [unescaped, *]

/-- A character that is no sign is part of the text. -/
theorem isText_singleton (other : stands (front ++ [c]) '=' front.length = false) :
    IsText front [c] := by
  -- Only a sign can be void.
  have kept : isVoid (front ++ [c]) front.length = false := by simp [isVoid_last, other]
  refine ⟨?_, ?_⟩
  · simp [effectivePlaces_snoc, other]
  · intro start inside
    rw [stretch_snoc inside, kept]
    rfl

/-- Characters that are part of the text are so together. -/
theorem IsText.append (isText : IsText front more) (isTextToo : IsText (front ++ more) back) :
    IsText front (more ++ back) := by
  -- Each conclusion is taken in two steps.
  constructor
  · rw [← List.append_assoc, isTextToo.places, isText.places]
  · intro start inside
    have further : start ≤ (front ++ more).length := by
      rw [List.length_append]
      omega
    rw [← List.append_assoc, isTextToo.stretch start further, isText.stretch start inside,
      List.append_assoc]

/-- An escape is part of the text, even if it is that of an equals sign. -/
theorem isText_escape (even : Even (trailingBackslashes front)) (c : Char) :
    IsText front ['\\', c] := by
  -- The backslash keeps the character behind it from standing as a sign.
  have odd : ¬Even (trailingBackslashes (front ++ ['\\'])) := by
    rw [trailingBackslashes_snoc, if_pos rfl, Nat.even_add_one]
    exact not_not_intro even
  have backslash : IsText front ['\\'] := isText_singleton (by simp [stands_last])
  have second : IsText (front ++ ['\\']) [c] := by
    apply isText_singleton
    rw [stands_last, decide_eq_false odd, Bool.and_false]
  exact backslash.append second

/-- What is told of one pair is told of the text with characters behind that are not effective. -/
theorem Tells.append (tells : Tells front progress)
    (same : effectivePlaces (front ++ more) = effectivePlaces front)
    (entries : next.entries = progress.entries) (key : next.key = progress.key)
    (part : next.part.getD [] =
      textBetween (front ++ more) (startBehind (effectivePlaces front)) (front ++ more).length) :
    Tells (front ++ more) next := by
  refine ⟨entries.trans tells.entries, ?_, ?_, ?_⟩
  · rw [part, same]
  · rw [same, key]
    exact tells.unnamed
  · intro earlier last split
    rw [same] at split
    -- The last effective sign is in front, and so is the text before it.
    have inside : last < front.length := effectivePlaces_lt (by simp [split])
    rw [key, tells.named earlier last split, textBetween, textBetween,
      stretch_append (Nat.le_of_lt inside)]

/-- Nothing has been read of an empty text. -/
theorem tracks_start : Tracks [] Progress.start := by
  -- There are no signs and no text.
  have none : effectivePlaces [] = [] := rfl
  refine ⟨⟨rfl, rfl, fun _ => rfl, ?_⟩, by decide, by decide, by decide⟩
  intro earlier last split
  simp [none] at split

/-- A character of the text is read. -/
theorem Tracks.char (tracks : Tracks front progress) (isText : IsText front more)
    (text : unescaped more = [c])
    (even : ∀ cs, Even (trailingBackslashes cs) → Even (trailingBackslashes (cs ++ more))) :
    Tracks (front ++ more) (progress.step (.char c)) := by
  have inside := startBehind_le front
  have nonempty : more ≠ [] := by
    intro empty
    rw [empty] at text
    contradiction
  have longer : front.length < (front ++ more).length := by
    have := List.length_pos_iff.mpr nonempty
    rw [List.length_append]
    omega
  have reached := isText.stretch _ inside
  refine ⟨tracks.append isText.places rfl rfl ?_, even front tracks.even, ?_, ?_⟩
  · -- The text so far leaves no escape open, so that the character is added to it.
    show progress.part.getD [] ++ [c] = _
    rw [textBetween, reached, unescaped_append tracks.evenPart, text, tracks.part, textBetween]
  · rw [isText.places, reached]
    exact even _ tracks.evenPart
  · -- The text that has come lies behind the last effective sign.
    rw [isText.places]
    constructor
    · intro missing
      contradiction
    · intro start
      omega

/-- An equals sign is void where no text has come, and else it is effective. -/
theorem effectivePlaces_assign (even : Even (trailingBackslashes front)) :
    effectivePlaces (front ++ ['=']) =
      if isVoid (front ++ ['=']) front.length then effectivePlaces front
      else effectivePlaces front ++ [front.length] := by
  -- No escape is open, so that the sign stands with its meaning.
  have sign : stands (front ++ ['=']) '=' front.length = true := by simp [stands_last, even]
  rw [effectivePlaces_snoc, sign, Bool.true_and]
  cases isVoid (front ++ ['=']) front.length with
  | true => simp
  | false => simp

/-- A void sign is read, and the text begins behind it. -/
theorem Tracks.void (tracks : Tracks front progress)
    (void : isVoid (front ++ ['=']) front.length) :
    Tracks (front ++ ['=']) { progress with part := some [] } := by
  have inside := startBehind_le front
  have places := effectivePlaces_assign tracks.even
  have start : startBehind (effectivePlaces front) = front.length := by
    simpa [isVoid_last, stands_last, tracks.even] using void
  have reached := stretch_snoc inside '='
  rw [if_pos void] at places
  rw [if_pos void, List.append_nil] at reached
  refine ⟨tracks.append places rfl rfl ?_, by simp [trailingBackslashes_snoc], ?_, ?_⟩
  · -- No text has come before it either.
    have text := tracks.part
    rw [tracks.part_none.mpr start] at text
    rw [textBetween, reached]
    exact text
  · rw [places, reached]
    exact tracks.evenPart
  · simp [places, start]

/-- An effective sign is read, and the text before it is the key. -/
theorem Tracks.effective (tracks : Tracks front progress)
    (effective : isVoid (front ++ ['=']) front.length = false) {part : List Char}
    (came : progress.part = some part) :
    Tracks (front ++ ['=']) { progress with key := some (keyText part), part := none } := by
  have places := effectivePlaces_assign tracks.even
  rw [effective, if_neg Bool.false_ne_true] at places
  -- Nothing has come behind the sign yet.
  have empty : stretch (front ++ ['=']) (startBehind (effectivePlaces (front ++ ['='])))
      (front ++ ['=']).length = [] := by
    rw [places, startBehind_snoc, List.length_append, List.length_singleton, stretch_empty]
  refine ⟨⟨tracks.entries, ?_, ?_, ?_⟩, by simp [trailingBackslashes_snoc], ?_, ?_⟩
  · rw [textBetween, empty]
    rfl
  · simp [places]
  · intro earlier last split
    rw [places] at split
    obtain ⟨rfl, rfl⟩ : effectivePlaces front = earlier ∧ front.length = last := by
      simpa using List.append_inj' split rfl
    -- What has come is the text since the sign before it.
    have text := tracks.part
    rw [came, Option.getD_some] at text
    rw [textBetween, stretch_append (Nat.le_refl _), ← textBetween, text]
  · rw [empty]
    decide
  · simp [places, startBehind_snoc]

/-- An equals sign is read. -/
theorem Tracks.assign (tracks : Tracks front progress) :
    Tracks (front ++ ['=']) (progress.step .assign) := by
  have void : isVoid (front ++ ['=']) front.length =
      decide (startBehind (effectivePlaces front) = front.length) := by
    simp [isVoid_last, stands_last, tracks.even]
  simp only [Progress.step]
  -- The sign is void exactly where no text has come.
  cases came : progress.part with
  | none =>
    have start := tracks.part_none.mp came
    exact tracks.void (by simp [void, start])
  | some part =>
    have start : startBehind (effectivePlaces front) ≠ front.length := by
      intro start
      have missing := tracks.part_none.mpr start
      rw [came] at missing
      contradiction
    exact tracks.effective (by simp [void, start]) came

/-- A text without a separator is read as one pair. -/
theorem Tracks.foldl {cs : List Char} (tracks : Tracks front progress)
    (single : places (front ++ cs) ';' = []) :
    Tells (front ++ cs) ((symbols cs).foldl Progress.step progress) := by
  -- Each case reads one sign, and what is in front of the rest grows by what spells it.
  fun_induction symbols cs generalizing front progress with
  | case1 =>
    rw [List.append_nil]
    exact tracks.toTells
  | case2 =>
    -- A lone backslash at the end is part of the text, and stands for nothing.
    have isText : IsText front ['\\'] := isText_singleton (by simp [stands_last])
    have nothing : unescaped ['\\'] = [] := rfl
    refine tracks.append isText.places rfl rfl ?_
    rw [textBetween, isText.stretch _ (startBehind_le front), unescaped_append tracks.evenPart,
      nothing, List.append_nil]
    exact tracks.part
  | case3 c rest ih =>
    have split : front ++ '\\' :: c :: rest = front ++ ['\\', c] ++ rest := by simp
    rw [split] at single ⊢
    exact ih (tracks.char (isText_escape tracks.even c) (unescaped_escape c)
      (even_trailing_snoc_escape c)) single
  | case4 rest ih =>
    -- The separator would be one of those that are not there.
    have separator : stands (front ++ ';' :: rest) ';' front.length = true := by
      simp [stands, tracks.even]
    have member : front.length ∈ places (front ++ ';' :: rest) ';' := by
      simp [places, separator]
    simp [single] at member
  | case5 rest ih =>
    rw [List.append_cons] at single ⊢
    exact ih tracks.assign single
  | case6 c rest alone escape separator assign ih =>
    have ordinary := ne_backslash alone escape
    have isText : IsText front [c] := by
      apply isText_singleton
      rw [stands_last, decide_eq_false assign, Bool.false_and]
    have even (cs : List Char) (_ : Even (trailingBackslashes cs)) :
        Even (trailingBackslashes (cs ++ [c])) := by
      simp [trailingBackslashes_snoc, ordinary]
    rw [List.append_cons] at single ⊢
    exact ih (tracks.char isText (unescaped_cons ordinary []) even) single

/-- A pair is added to no others unless its key is empty. -/
theorem commit_nil (key value : List Char) :
    commit [] (keyText key) (.ofList value) = pairOf (trim key) value := by
  unfold commit pairOf
  -- The pair is the only one, whether its key is new or not.
  by_cases empty : trim key = []
  · simp [keyText, empty]
  · simp [keyText, empty, Entries.insert]

/-- Where no sign is effective, the text is a key without a value. -/
theorem Tells.finish_unnamed {cs : List Char} (tells : Tells cs progress)
    (none : effectivePlaces cs = []) :
    progress.finish = pairOf (trim (textBetween cs 0 cs.length)) [] := by
  have text := tells.part
  have start : startBehind (effectivePlaces cs) = 0 := by simp [none, startBehind]
  rw [start] at text
  simp only [Progress.finish, tells.unnamed none, tells.entries]
  -- No text at all stands for an empty key, under which nothing is added.
  cases came : progress.part with
  | none =>
    rw [came, Option.getD_none] at text
    rw [← text]
    rfl
  | some part =>
    rw [came, Option.getD_some] at text
    rw [← text, ← commit_nil]

/-- Where a sign is effective, the last of them stands between the key and the value. -/
theorem Tells.finish_named {cs : List Char} (tells : Tells cs progress) {earlier : List Nat}
    {last : Nat} (split : effectivePlaces cs = earlier ++ [last]) :
    progress.finish = pairOf (trim (textBetween cs (startBehind earlier) last))
      (textBetween cs (last + 1) cs.length) := by
  -- The key was fixed at the last sign, and what has come since is the value.
  have text := tells.part
  rw [split, startBehind_snoc] at text
  simp only [Progress.finish, tells.named earlier last split, tells.entries, text, commit_nil]

/-- A list of one pair is read by its effective signs.

Without one, its text is the key of an empty value. Otherwise the key is the text between the last
two of them, or from the start, and the value is the text behind the last. Void signs are deleted,
escapes are resolved, white space around the key is dropped, and no pair has an empty key. -/
theorem decode_single {source : String} (single : places source.toList ';' = []) :
    (effectivePlaces source.toList = [] → decode source =
      pairOf (trim (textBetween source.toList 0 source.toList.length)) []) ∧
    ∀ earlier last, effectivePlaces source.toList = earlier ++ [last] → decode source =
      pairOf (trim (textBetween source.toList (startBehind earlier) last))
        (textBetween source.toList (last + 1) source.toList.length) := by
  -- One fact on the whole text has both cases.
  have tells : Tells source.toList ((symbols source.toList).foldl Progress.step .start) :=
    tracks_start.foldl single
  constructor
  · intro none
    exact tells.finish_unnamed none
  · intro earlier last split
    exact tells.finish_named split

/-- A key alone behind a void sign holds an escaped separator. Void signs stand at the start and
behind the last effective sign, before which the key is text with an escaped sign in it. -/
theorem decode_single_signs :
    decode "= a\\;b\\" = [("a;b", "")] ∧ decode "=x=\\= k ==\\tv\\" = [("= k", "\tv")] := by
  -- The first text has no effective sign, and the second has two.
  constructor
  · rw [(decode_single (by decide)).1 (by decide)]
    decide +kernel
  · rw [(decode_single (by decide)).2 [2] 8 (by decide)]
    decide +kernel

end TextTemplate.PropertyList
