import Mathlib.Tactic.SplitIfs
import TextTemplate.Date.Mask
import TextTemplate.Proofs.Text.Leading

/-! A mask is cut from its front into pieces that are as long as they can be. -/

namespace TextTemplate

/-- The tokens of masks. -/
inductive IsToken : List Char → Prop where
  /-- The day or the month, as a number or by its name. -/
  | date {c : Char} (letter : c ∈ ['d', 'm']) {count : Nat} (pos : 1 ≤ count) (le : count ≤ 4) :
    IsToken (.replicate count c)
  | year {count : Nat} (digits : count = 2 ∨ count = 4) : IsToken (.replicate count 'y')
  | time {c : Char} (letter : c ∈ ['h', 'H', 'M', 's', 't', 'T']) {count : Nat} (pos : 1 ≤ count)
    (le : count ≤ 2) : IsToken (.replicate count c)
  | lone {c : Char} (letter : c ∈ ['l', 'L', 'o', 'S', 'Z']) : IsToken [c]

/-- The part of a mask that a piece is read from. -/
def MaskPiece.source : MaskPiece → List Char
  | .token text => text
  | .quotation quote inside => quote :: (inside ++ [quote])
  | .single c => [c]

/-- The pieces that stand for something else than themselves. -/
inductive MaskPiece.IsMatch : MaskPiece → Prop where
  | token {text : List Char} (token : IsToken text) : IsMatch (.token text)
  | quotation {quote : Char} (mark : quote ∈ ['\x27', '\x22']) {inside : List Char}
    (first : quote ∉ inside) : IsMatch (.quotation quote inside)

/-- The pieces of a mask, cut from its front.

Each is the longest one of those that stand for something else, or one character where there is
none of them. -/
inductive GreedyScan : List Char → List MaskPiece → Prop where
  | done : GreedyScan [] []
  | longest {piece : MaskPiece} {rest : List Char} {pieces : List MaskPiece}
    (matched : piece.IsMatch)
    (longest : ∀ other : MaskPiece, other.IsMatch → other.source <+: piece.source ++ rest →
      other.source.length ≤ piece.source.length)
    (behind : GreedyScan rest pieces) : GreedyScan (piece.source ++ rest) (piece :: pieces)
  | single {c : Char} {rest : List Char} {pieces : List MaskPiece}
    (unmatched : ∀ other : MaskPiece, other.IsMatch → ¬other.source <+: c :: rest)
    (behind : GreedyScan rest pieces) : GreedyScan (c :: rest) (.single c :: pieces)

/-- The pieces of a scan are the mask, in order. -/
theorem GreedyScan.tiles {mask : List Char} {pieces : List MaskPiece}
    (scan : GreedyScan mask pieces) : pieces.flatMap MaskPiece.source = mask := by
  -- Each step takes the characters of its piece off the front.
  induction scan with
  | done => rfl
  | longest _ _ _ ih => rw [List.flatMap_cons, ih]
  | single _ _ ih =>
    rw [List.flatMap_cons, ih]
    rfl

/-- The tokens of a scan are tokens of masks. -/
theorem GreedyScan.isToken {mask text : List Char} {pieces : List MaskPiece}
    (scan : GreedyScan mask pieces) (member : .token text ∈ pieces) : IsToken text := by
  induction scan with
  | done => cases member
  | longest matched _ _ ih =>
    rcases List.mem_cons.mp member with rfl | member
    -- Among matches, a token is one of the list.
    · cases matched
      assumption
    · exact ih member
  | single _ _ ih => exact ih ((List.mem_cons.mp member).resolve_left (by nofun))

section Token

variable {cs text : List Char}

/-- A text begins with a character as often as that stands in a row. -/
theorem replicate_prefix_iff {c : Char} {count : Nat} :
    List.replicate count c <+: cs ↔ count ≤ runLength c cs := by
  -- Each repetition takes one character off the row.
  induction count generalizing cs with
  | zero => simp
  | succ count ih =>
    cases cs with
    | nil => simp [runLength]
    | cons first rest =>
      simp only [List.replicate_succ, List.cons_prefix_cons, ih, runLength, List.takeWhile_cons,
        decide_eq_true_eq]
      split
      · simp_all
      · rename_i other
        simp [Ne.symm other]

/-- A character stands in a row as often as it is repeated at the front. -/
theorem take_eq_replicate {c : Char} {count : Nat} (run : count ≤ runLength c cs) :
    cs.take count = List.replicate count c := by
  obtain ⟨rest, rfl⟩ := replicate_prefix_iff.mpr run
  rw [List.take_left' List.length_replicate]

/-- What is counted as a token is one. -/
theorem isToken_take (some : 0 < tokenLength cs) : IsToken (cs.take (tokenLength cs)) := by
  cases cs with
  | nil => simp [tokenLength] at some
  | cons c rest =>
    have first : 1 ≤ runLength c (c :: rest) := replicate_prefix_iff.mp ⟨rest, rfl⟩
    -- What is taken is a run of the first letter.
    have taken : ∀ {count}, count ≤ runLength c (c :: rest) → IsToken (.replicate count c) →
        IsToken ((c :: rest).take count) := fun run token => by rwa [take_eq_replicate run]
    revert some
    simp only [tokenLength]
    -- One case for each letter, and one more where there is none.
    split
    case h_3 =>
      split_ifs with four two
      · exact fun _ => taken four (.year (.inr rfl))
      · exact fun _ => taken two (.year (.inl rfl))
      · exact fun none => absurd none (Nat.lt_irrefl 0)
    all_goals first
      | exact fun _ => taken (Nat.min_le_left _ _)
          (.date (by decide) (by omega) (Nat.min_le_right _ _))
      | exact fun _ => taken (Nat.min_le_left _ _)
          (.time (by decide) (by omega) (Nat.min_le_right _ _))
      | exact fun _ => .lone (by decide)
      | exact fun none => absurd none (Nat.lt_irrefl 0)

/-- No token is empty. -/
theorem IsToken.length_pos (token : IsToken text) : 0 < text.length := by
  -- Every row of letters has a least length.
  cases token with
  | date _ pos _ => rwa [List.length_replicate]
  | year digits =>
    rw [List.length_replicate]
    omega
  | time _ pos _ => rwa [List.length_replicate]
  | lone _ => exact Nat.one_pos

/-- No more is counted as a token than there is. -/
theorem tokenLength_le (cs : List Char) : tokenLength cs ≤ cs.length := by
  -- What is counted is at most a row in the text, or the letter in front.
  cases cs with
  | nil => exact Nat.le_refl 0
  | cons c rest =>
    have run : runLength c (c :: rest) ≤ (c :: rest).length :=
      (List.takeWhile_sublist _).length_le
    have first : 1 ≤ (c :: rest).length := Nat.le_add_left _ _
    simp only [tokenLength]
    split
    case h_3 => split_ifs <;> omega
    all_goals omega

/-- No token at the front is longer than what is counted. -/
theorem IsToken.length_le (token : IsToken text) (front : text <+: cs) :
    text.length ≤ tokenLength cs := by
  -- A token is not empty, so that the text begins with its letter.
  have begins : ∀ {c : Char} {count : Nat}, 1 ≤ count → List.replicate count c <+: cs →
      ∃ rest, cs = c :: rest := by
    intro c count pos front
    obtain ⟨count, rfl⟩ := Nat.exists_eq_add_of_le' pos
    obtain ⟨rest, rfl⟩ := front
    exact ⟨_, rfl⟩
  cases token with
  | date letter pos le =>
    have run := replicate_prefix_iff.mp front
    obtain ⟨rest, rfl⟩ := begins pos front
    rw [List.length_replicate]
    simp only [List.mem_cons, List.not_mem_nil, or_false] at letter
    rcases letter with rfl | rfl
    all_goals exact Nat.le_min.mpr ⟨run, le⟩
  | year digits =>
    have run := replicate_prefix_iff.mp front
    obtain ⟨rest, rfl⟩ := begins (by omega) front
    rw [List.length_replicate]
    simp only [tokenLength]
    split_ifs <;> omega
  | time letter pos le =>
    have run := replicate_prefix_iff.mp front
    obtain ⟨rest, rfl⟩ := begins pos front
    rw [List.length_replicate]
    simp only [List.mem_cons, List.not_mem_nil, or_false] at letter
    rcases letter with rfl | rfl | rfl | rfl | rfl | rfl
    all_goals exact Nat.le_min.mpr ⟨run, le⟩
  | lone letter =>
    obtain ⟨rest, rfl⟩ := begins (Nat.le_refl 1) (front : List.replicate 1 _ <+: cs)
    simp only [List.mem_cons, List.not_mem_nil, or_false] at letter
    rcases letter with rfl | rfl | rfl | rfl | rfl
    all_goals exact Nat.le_refl 1

/-- A token at the front ends where its letter does. -/
theorem tokenLength_append {c : Char} {front rest : List Char} (ends : ∀ d ∈ rest.head?, d ≠ c) :
    tokenLength (c :: (front ++ rest)) = tokenLength (c :: front) := by
  -- The run of the first letter does not go on behind the front.
  have run : runLength c (c :: (front ++ rest)) = runLength c (c :: front) := by
    rw [runLength, runLength, ← List.cons_append, List.takeWhile_append]
    split
    · rename_i whole
      have stops : rest.takeWhile (fun x => decide (x = c)) = [] := by
        cases rest with
        | nil => rfl
        | cons d rest => simpa using ends d rfl
      rw [stops, List.append_nil, whole]
    · rfl
  simp only [tokenLength, run]

end Token

section Quotation

variable {quote : Char} {inside rest : List Char}

/-- No token begins with a quote. -/
theorem tokenLength_quote (mark : quote ∈ ['\x27', '\x22']) : tokenLength (quote :: rest) = 0 := by
  -- No case of the count is that of a quote.
  simp only [List.mem_cons, List.not_mem_nil, or_false] at mark
  rcases mark with rfl | rfl <;> rfl

/-- The characters that can begin a quotation are the two quotes. -/
theorem isQuote_iff : isQuote quote ↔ quote ∈ ['\x27', '\x22'] := by
  simp [isQuote]

/-- A quotation ends with the first quote behind the one it begins with. -/
theorem splitQuotation (first : quote ∉ inside) (rest : List Char) :
    (inside ++ quote :: rest).takeWhile (· ≠ quote) = inside ∧
      ((inside ++ quote :: rest).dropWhile (· ≠ quote)).drop 1 = rest := by
  -- Nothing inside ends the quotation.
  have other : ∀ c ∈ inside, decide (c ≠ quote) := by
    intro c member
    rw [decide_eq_true_eq]
    rintro rfl
    exact first member
  have stops : ∀ c ∈ (quote :: rest).head?, decide (c ≠ quote) = false := by simp
  obtain ⟨taken, dropped⟩ := takeWhile_dropWhile_append other stops
  exact ⟨taken, by rw [dropped, List.drop_one, List.tail_cons]⟩

end Quotation

section Pieces

variable {mask : List Char}

/-- A mask that begins with a token is cut behind it. -/
theorem maskPieces_token (some : 0 < tokenLength mask) :
    maskPieces mask = .token (mask.take (tokenLength mask)) ::
      maskPieces (mask.drop (tokenLength mask)) := by
  -- The first case of the cut applies.
  cases mask with
  | nil => simp [tokenLength] at some
  | cons c rest => rw [maskPieces, if_pos some]

/-- A mask that begins with a quotation is cut behind it. -/
theorem maskPieces_quotation {quote : Char} (mark : quote ∈ ['\x27', '\x22']) {inside : List Char}
    (first : quote ∉ inside) (rest : List Char) :
    maskPieces (quote :: (inside ++ quote :: rest)) =
      .quotation quote inside :: maskPieces rest := by
  -- No token is in the way, and the quotation is closed.
  obtain ⟨taken, dropped⟩ := splitQuotation first rest
  rw [maskPieces, if_neg (by rw [tokenLength_quote mark]; exact Nat.lt_irrefl 0),
    if_pos ⟨isQuote_iff.mpr mark, by simp⟩, taken, dropped]

/-- Where a token is counted, no piece that stands for something else is longer. -/
theorem MaskPiece.IsMatch.length_le {piece : MaskPiece} (matched : piece.IsMatch)
    (some : 0 < tokenLength mask) (front : piece.source <+: mask) :
    piece.source.length ≤ tokenLength mask := by
  -- A quotation cannot stand where a token does.
  cases matched with
  | token token => exact token.length_le front
  | quotation mark _ =>
    obtain ⟨rest, rfl⟩ := front
    rw [source, List.cons_append, tokenLength_quote mark] at some
    exact absurd some (Nat.lt_irrefl 0)

/-- Where a quotation is closed, no piece that stands for something else is longer. -/
theorem MaskPiece.IsMatch.length_le_quotation {piece : MaskPiece} (matched : piece.IsMatch)
    {quote : Char} (mark : quote ∈ ['\x27', '\x22']) {inside rest : List Char}
    (first : quote ∉ inside) (front : piece.source <+: quote :: (inside ++ quote :: rest)) :
    piece.source.length ≤ (MaskPiece.quotation quote inside).source.length := by
  cases matched with
  | token token =>
    have short := token.length_le front
    rw [tokenLength_quote mark] at short
    exact short.trans (Nat.zero_le _)
  | quotation _ firstOther =>
    obtain ⟨behind, whole⟩ := front
    simp only [source, List.cons_append, List.append_assoc, List.nil_append,
      List.cons.injEq] at whole
    obtain ⟨rfl, whole⟩ := whole
    -- The first quote behind the one in front is the same for both.
    have same := (splitQuotation firstOther behind).1
    rw [whole, (splitQuotation first _).1] at same
    rw [same]

/-- Where no token is counted and no quotation is closed, no piece stands for something else. -/
theorem MaskPiece.IsMatch.not_prefix {piece : MaskPiece} (matched : piece.IsMatch) {c : Char}
    {rest : List Char} (none : tokenLength (c :: rest) = 0) (unclosed : ¬(isQuote c ∧ c ∈ rest)) :
    ¬piece.source <+: c :: rest := by
  -- A token in front would be counted, and a quotation would be closed.
  intro front
  cases matched with
  | token token =>
    have short := token.length_le front
    exact absurd token.length_pos (by omega)
  | quotation mark _ =>
    obtain ⟨behind, whole⟩ := front
    simp only [source, List.cons_append, List.append_assoc, List.cons.injEq] at whole
    obtain ⟨rfl, rfl⟩ := whole
    exact unclosed ⟨isQuote_iff.mpr mark, by simp⟩

/-- The pieces of a mask are a greedy scan of it. -/
theorem maskPieces_scan (mask : List Char) : GreedyScan mask (maskPieces mask) := by
  fun_induction maskPieces mask with
  | case1 => exact .done
  | case2 c rest count some ih =>
    -- The token that is counted is the longest piece in front.
    have whole : (c :: rest).take count ++ (c :: rest).drop count = c :: rest :=
      List.take_append_drop _ _
    have length : ((c :: rest).take count).length = count :=
      List.length_take_of_le (tokenLength_le _)
    have scan := GreedyScan.longest (.token (isToken_take some))
      (fun other matched front => (matched.length_le some (whole ▸ front)).trans length.ge) ih
    rwa [MaskPiece.source, whole] at scan
  | case3 c rest count none closed ih =>
    -- Where no token is counted, a quotation has no rival but itself.
    obtain ⟨quote, member⟩ := closed
    have mark := isQuote_iff.mp quote
    obtain ⟨inside, behind, rfl, first⟩ := List.eq_append_cons_of_mem member
    obtain ⟨taken, dropped⟩ := splitQuotation first behind
    rw [dropped] at ih
    rw [taken, dropped]
    have whole : (MaskPiece.quotation c inside).source ++ behind =
        c :: (inside ++ c :: behind) := by
      simp [MaskPiece.source]
    have scan := GreedyScan.longest (.quotation mark first)
      (fun other matched front => matched.length_le_quotation mark first (whole ▸ front)) ih
    rwa [whole] at scan
  -- Nothing matches, and one character is cut off.
  | case4 c rest count none unclosed ih =>
    exact .single (fun other matched => matched.not_prefix (by omega) unclosed) ih

/-- There is one greedy scan of a mask. -/
theorem GreedyScan.eq_maskPieces {pieces : List MaskPiece} (scan : GreedyScan mask pieces) :
    pieces = maskPieces mask := by
  -- Each step of a scan is the step of the code on the same rest of the mask.
  induction scan with
  | done => rw [maskPieces]
  | @longest piece rest pieces matched longest behind ih =>
    cases matched with
    | @token text token =>
      -- The token that is counted is one of those that the piece is the longest of.
      have le : text.length ≤ tokenLength (text ++ rest) := token.length_le (List.prefix_append _ _)
      have some : 0 < tokenLength (text ++ rest) := Nat.lt_of_lt_of_le token.length_pos le
      have ge := longest _ (.token (isToken_take some)) (List.take_prefix _ _)
      rw [MaskPiece.source, List.length_take_of_le (tokenLength_le _)] at ge
      have same : tokenLength (text ++ rest) = text.length := Nat.le_antisymm ge le
      rw [MaskPiece.source, maskPieces_token some, same, List.take_left, List.drop_left, ih]
    | quotation mark first =>
      rw [MaskPiece.source, List.cons_append, List.append_assoc, List.singleton_append,
        maskPieces_quotation mark first, ih]
  | @single c rest pieces unmatched behind ih =>
    -- A token or a quotation in front would have been taken.
    have none : tokenLength (c :: rest) = 0 := by
      by_contra some
      exact unmatched _ (.token (isToken_take (Nat.pos_of_ne_zero some))) (List.take_prefix _ _)
    have unclosed : ¬(isQuote c ∧ c ∈ rest) := by
      rintro ⟨quote, member⟩
      obtain ⟨inside, after, rfl, first⟩ := List.eq_append_cons_of_mem member
      exact unmatched _ (.quotation (isQuote_iff.mp quote) first)
        ⟨after, by simp [MaskPiece.source]⟩
    rw [maskPieces, if_neg (by omega), if_neg unclosed, ih]

end Pieces

end TextTemplate
