import Mathlib.Data.List.SplitBy
import TextTemplate.Proofs.Date.Token

/-! Any text can stand in a mask between quotes, and is then written as it is. -/

namespace TextTemplate

/-- The longest parts of a text in a row that have no single quote, or nothing else. -/
def quoteRuns (text : List Char) : List (List Char) :=
  text.splitBy fun c d => (c = '\x27') == (d = '\x27')

/-- The quote that a run can stand between: the double one for single quotes. -/
def quoteOf (run : List Char) : Char :=
  if '\x27' ∈ run then '\x22' else '\x27'

/-- A text as a part of a mask that stands for it: each run between quotes, and no text between two
single ones. -/
def quoteMask (text : String) : String :=
  if text = "" then "\x27\x27"
  else .ofList ((quoteRuns text.toList).flatMap fun run => quoteOf run :: (run ++ [quoteOf run]))

/-- No mask with a quote in it is a name of one. -/
theorem namedMask?_quote {mask : String} {quote : Char} (mark : isQuote quote)
    (member : quote ∈ mask.toList) : namedMask? mask = none := by
  -- No name has a quote in it.
  have other : ∀ pair ∈ namedMasks, ∀ c ∈ pair.1.toList, ¬isQuote c := by
    simp [namedMasks, isQuote]
  refine List.lookup_eq_none_iff.mpr fun pair named => ?_
  rw [bne_iff_ne]
  rintro rfl
  exact other pair named quote member mark

section Append

variable {front back : List Char} {quote : Char}

/-- A token at the front ends in front of a quote. -/
theorem tokenLength_append_quote {c : Char} (other : ¬isQuote c) (mark : isQuote quote)
    (rest : List Char) :
    tokenLength (c :: (front ++ quote :: rest)) = tokenLength (c :: front) := by
  -- A quote is no letter, so that it does not go on with the token.
  refine tokenLength_append fun d first => ?_
  cases first
  rintro rfl
  exact other mark

/-- A mask without quotes is cut on its own where a quote stands behind it. -/
theorem maskPieces_append (unquoted : ∀ c ∈ front, ¬isQuote c) (mark : isQuote quote)
    (rest : List Char) :
    maskPieces (front ++ quote :: rest) = maskPieces front ++ maskPieces (quote :: rest) := by
  fun_induction maskPieces front with
  | case1 => rfl
  -- A token at the front is cut off alike, and leaves a shorter mask.
  | case2 c front count some ih =>
    have same : tokenLength (c :: front ++ quote :: rest) = count :=
      tokenLength_append_quote (unquoted c List.mem_cons_self) mark rest
    have inside : count ≤ (c :: front).length := tokenLength_le _
    have behind := ih fun d member => unquoted d (List.mem_of_mem_drop member)
    rw [maskPieces_token (by omega), same, List.take_append_of_le_length inside,
      List.drop_append_of_le_length inside, behind, List.cons_append]
  | case3 c front count none closed => exact absurd closed.1 (unquoted c List.mem_cons_self)
  -- A character that is no quote is cut off by itself on both sides.
  | case4 c front count none unclosed ih =>
    have same : tokenLength (c :: (front ++ quote :: rest)) = count :=
      tokenLength_append_quote (unquoted c List.mem_cons_self) mark rest
    have single : ¬(isQuote c ∧ c ∈ front ++ quote :: rest) := fun closed =>
      unquoted c List.mem_cons_self closed.1
    rw [List.cons_append, maskPieces, if_neg (by omega), if_neg single,
      ih fun d member => unquoted d (List.mem_cons_of_mem c member), List.cons_append]

/-- A mask that has no sign for universal time has none with a quotation behind it. -/
theorem isPlainMask_quoted {mask : String} (mark : isQuote quote) {rest : List Char}
    (whole : mask.toList = front ++ quote :: rest) (unmarked : ¬['U', 'T', 'C', ':'] <+: front) :
    IsPlainMask mask where
  nonempty := by
    rintro rfl
    simp at whole
  unnamed := namedMask?_quote mark (by simp [whole])
  unmarked := by
    intro sign
    rw [whole] at sign
    -- A sign that is not in front of the quote would have the quote in it.
    rcases List.prefix_or_prefix_of_prefix sign (List.prefix_append front (quote :: rest)) with
      within | beyond
    · exact unmarked within
    · obtain ⟨more, split⟩ := beyond
      rw [← split, List.prefix_append_right_inj] at sign
      cases more with
      | nil => exact unmarked ⟨[], by simpa using split.symm⟩
      | cons c more =>
        obtain ⟨rfl, -⟩ := List.cons_prefix_cons.mp sign
        have member : c ∈ ['U', 'T', 'C', ':'] := by
          rw [← split]
          simp
        have letters : ∀ c ∈ ['U', 'T', 'C', ':'], ¬isQuote c := by simp [isQuote]
        exact letters c member mark

end Append

section Runs

variable {run : List Char}

/-- A run with a single quote has nothing else. -/
theorem quoteRuns_uniform {text : List Char} (part : run ∈ quoteRuns text) :
    '\x27' ∉ run ∨ ∀ c ∈ run, c = '\x27' := by
  have alike := List.isChain_of_mem_splitBy part
  clear part
  induction run with
  | nil => exact .inl List.not_mem_nil
  | cons c run ih =>
    cases run with
    | nil => simpa [eq_comm] using (eq_or_ne c '\x27').symm
    | cons d run =>
      rw [List.isChain_cons_cons, beq_iff_eq, decide_eq_decide] at alike
      -- The first is of the sort of the second, and so are all behind it.
      rcases ih alike.2 with none | all
      · have other : d ≠ '\x27' := fun single => none (single ▸ List.mem_cons_self)
        exact .inl (List.not_mem_cons_of_ne_of_not_mem (Ne.symm (mt alike.1.mp other)) none)
      · have single := alike.1.mpr (all d List.mem_cons_self)
        exact .inr (List.forall_mem_cons.mpr ⟨single, all⟩)

/-- No run has the quote that it stands between. -/
theorem quoteOf_not_mem {text : List Char} (part : run ∈ quoteRuns text) : quoteOf run ∉ run := by
  unfold quoteOf
  split
  · rename_i single
    intro double
    -- A run with both quotes would be none.
    rcases quoteRuns_uniform part with none | all
    · exact none single
    · exact absurd (all _ double) (by decide)
  · assumption

theorem isQuote_quoteOf (run : List Char) : isQuote (quoteOf run) := by
  -- It is one of the two quotes.
  unfold quoteOf
  split <;> decide

/-- Runs between quotes are cut into one quotation for each, whatever stands behind them. -/
theorem maskPieces_quoted {runs : List (List Char)} (apart : ∀ run ∈ runs, quoteOf run ∉ run)
    (rest : List Char) :
    maskPieces ((runs.flatMap fun run => quoteOf run :: (run ++ [quoteOf run])) ++ rest) =
      runs.map (fun run => .quotation (quoteOf run) run) ++ maskPieces rest := by
  -- A quotation ends with its second quote, so that the next one begins behind it.
  induction runs with
  | nil => rfl
  | cons run runs ih =>
    rw [List.forall_mem_cons] at apart
    simp only [List.flatMap_cons, List.map_cons, List.cons_append, List.append_assoc,
      List.nil_append]
    rw [maskPieces_quotation (isQuote_iff.mp (isQuote_quoteOf run)) apart.1, ← ih apart.2]

/-- A text between quotes is a row of quotations that are written as the text, whatever stands
behind it. -/
theorem exists_quotations (text : String) :
    ∃ quotations : List MaskPiece,
      (∀ rest, maskPieces ((quoteMask text).toList ++ rest) = quotations ++ maskPieces rest) ∧
        ∀ civil zone, quotations.flatMap (·.write civil zone) = text.toList := by
  unfold quoteMask
  split
  · subst text
    -- No text is one quotation with nothing inside.
    have single : '\x27' ∈ ['\x27', '\x22'] := List.mem_cons_self
    exact ⟨[.quotation '\x27' []], maskPieces_quotation single List.not_mem_nil,
      fun civil zone => rfl⟩
  · refine ⟨(quoteRuns text.toList).map fun run => .quotation (quoteOf run) run, fun rest => ?_,
      fun civil zone => ?_⟩
    · rw [String.toList_ofList]
      exact maskPieces_quoted (fun run part => quoteOf_not_mem part) rest
    · rw [List.flatMap_map]
      simp only [MaskPiece.write, List.flatMap_id']
      exact List.flatten_splitBy _ _

/-- A text between quotes begins with a quote. -/
theorem exists_quoteMask (text : String) :
    ∃ quote rest, isQuote quote ∧ (quoteMask text).toList = quote :: rest := by
  unfold quoteMask
  split
  · exact ⟨'\x27', ['\x27'], by decide, by decide⟩
  · rename_i some
    -- A text that is not empty has a first run.
    cases runs : quoteRuns text.toList with
    | nil =>
      rw [quoteRuns, List.splitBy_eq_nil, String.toList_eq_nil_iff] at runs
      exact absurd runs some
    | cons run runs =>
      rw [String.toList_ofList, List.flatMap_cons, List.cons_append]
      exact ⟨quoteOf run, _, isQuote_quoteOf run, rfl⟩

end Runs

/-- A text between quotes is written as it is, for every date and in every zone.

It may stand alone, or between two copies of a mask that has no quotes: then it comes between what
these are written as. -/
theorem format_quoteMask (moment : Moment) (utc : Bool) (text : String) :
    moment.format (quoteMask text) utc = text ∧
      ∀ mask : String, IsPlainMask mask → (∀ c ∈ mask.toList, ¬isQuote c) →
        moment.format (mask ++ quoteMask text ++ mask) utc =
          moment.format mask utc ++ text ++ moment.format mask utc := by
  obtain ⟨quotations, cut, written⟩ := exists_quotations text
  obtain ⟨quote, rest, mark, opens⟩ := exists_quoteMask text
  constructor
  · have whole : (quoteMask text).toList = [] ++ quote :: rest := opens
    have plain : IsPlainMask (quoteMask text) := isPlainMask_quoted mark whole (by simp)
    have pieces := cut []
    rw [List.append_nil] at pieces
    rw [← String.toList_inj, format_plain plain, pieces, List.flatMap_append, written]
    simp [maskPieces]
  · intro mask plain unquoted
    have whole : (mask ++ quoteMask text ++ mask).toList =
        mask.toList ++ quote :: (rest ++ mask.toList) := by
      simp [opens]
    have also := isPlainMask_quoted mark whole plain.unmarked
    -- The mask is cut in front of the quotations, and again behind them.
    have pieces : maskPieces (mask ++ quoteMask text ++ mask).toList =
        maskPieces mask.toList ++ (quotations ++ maskPieces mask.toList) := by
      rw [whole, maskPieces_append unquoted mark, ← cut, opens, List.cons_append]
    rw [← String.toList_inj, format_plain also, pieces]
    simp only [List.flatMap_append, written, String.toList_append, format_plain plain,
      List.append_assoc]

/-- A letter that is a token, both quotes and a sign that is no letter, between two times. -/
theorem format_quoteMask_between :
    let noon : Moment := ⟨⟨2026, 3, 1, 12, 4, 5, 0⟩, 7200⟩
    IsPlainMask "HH:MM" ∧ (∀ c ∈ "HH:MM".toList, ¬isQuote c) ∧
      quoteMask "d\x27\x27 \x22❤" = "\x27d\x27\x22\x27\x27\x22\x27 \x22❤\x27" ∧
      noon.format "HH:MM" false = "12:04" ∧
      noon.format ("HH:MM" ++ quoteMask "d\x27\x27 \x22❤" ++ "HH:MM") false =
        "12:04d\x27\x27 \x22❤12:04" := by
  intro noon
  have plain : IsPlainMask "HH:MM" := ⟨by decide, by decide, by decide⟩
  have unquoted : ∀ c ∈ "HH:MM".toList, ¬isQuote c := by simp [isQuote]
  have pieces : maskPieces "HH:MM".toList =
      [.token ['H', 'H'], .single ':', .token ['M', 'M']] := by cbv
  -- The time is computed once, and the rest follows from the theorem.
  have time : noon.format "HH:MM" false = "12:04" := by
    rw [← String.toList_inj, format_plain plain, pieces]
    decide
  have whole := (format_quoteMask noon false "d\x27\x27 \x22❤").2 "HH:MM" plain unquoted
  rw [time] at whole
  exact ⟨plain, unquoted, by decide, time, whole.trans (by decide)⟩

end TextTemplate
