import TextTemplate.Proofs.Date.Token
import TextTemplate.Proofs.Text.Offset

/-! Masks whose tokens have a fixed number of digits are written in a fixed length. -/

namespace TextTemplate

/-- The tokens that are documented with a fixed number of digits. -/
def columnTokens : List (List Char) :=
  [['d', 'd'], ['m', 'm'], ['y', 'y'], ['h', 'h'], ['H', 'H'], ['M', 'M'], ['s', 's'], ['l'], ['L']]

/-- A character that can stand between tokens is neither one itself nor a quote. -/
structure IsSeparator (c : Char) : Prop where
  token : ¬IsToken [c]
  quote : ¬isQuote c

/-- Masks of tokens with a fixed number of digits, none of which stands directly behind another.

Characters that are neither tokens nor quotes may stand between them, and around them too. -/
inductive IsColumnMask : List Char → Prop where
  | done : IsColumnMask []
  | separator {c : Char} {rest : List Char} (other : IsSeparator c) (behind : IsColumnMask rest) :
    IsColumnMask (c :: rest)
  | token {text rest : List Char} (fixed : text ∈ columnTokens)
    (apart : ∀ c ∈ rest.head?, IsSeparator c) (behind : IsColumnMask rest) :
    IsColumnMask (text ++ rest)

/-- The pieces that such a mask is cut into.

A year in full is one of them where separators that are the letter of years stand in a row. -/
inductive MaskPiece.IsColumn : MaskPiece → Prop where
  | token {text : List Char} (fixed : text ∈ columnTokens) : IsColumn (.token text)
  | year : IsColumn (.token ['y', 'y', 'y', 'y'])
  | separator {c : Char} (other : IsSeparator c) : IsColumn (.single c)

section Cut

variable {c : Char} {mask rest text : List Char}

/-- One letter is a token where it is counted as one. -/
theorem isToken_singleton_iff : IsToken [c] ↔ 0 < tokenLength [c] := by
  constructor
  · intro token
    exact token.length_le (List.prefix_refl [c])
  · intro some
    -- What is counted is then the whole text.
    have whole : [c].length ≤ tokenLength [c] := some
    have token := isToken_take some
    rwa [List.take_of_length_le whole] at token

/-- Of the letters of tokens, only that of years is no token alone. -/
theorem IsSeparator.eq_year (other : IsSeparator c) (some : 0 < tokenLength (c :: rest)) :
    c = 'y' := by
  have none := mt isToken_singleton_iff.mpr other.token
  simp only [tokenLength] at some none
  -- Each of the other letters is counted alone as well.
  split at some
  case h_3 => rfl
  all_goals simp [runLength] at some none

theorem isSeparator_year : IsSeparator 'y' :=
  ⟨mt isToken_singleton_iff.mp (by decide), by decide⟩

/-- The tokens with a fixed number of digits are tokens. -/
theorem isToken_of_column (fixed : text ∈ columnTokens) : IsToken text := by
  -- There are nine tokens, each of which is counted as a whole.
  have each : ∀ text ∈ columnTokens,
      text.take (tokenLength text) = text ∧ 0 < tokenLength text := by
    decide
  obtain ⟨whole, some⟩ := each text fixed
  exact whole ▸ isToken_take some

/-- A token that stands alone is counted as it is, the year apart. -/
theorem tokenLength_column (fixed : text ∈ columnTokens) (short : text ≠ ['y', 'y'])
    (apart : ∀ c ∈ rest.head?, IsSeparator c) : tokenLength (text ++ rest) = text.length := by
  have each : ∀ text ∈ columnTokens, text ≠ ['y', 'y'] →
      tokenLength text = text.length ∧ 0 < tokenLength (text.take 1) := by
    decide
  obtain ⟨length, letter⟩ := each text fixed short
  cases text with
  | nil => exact absurd fixed (by decide)
  | cons c front =>
    -- A separator is no token, so that it does not go on with the letter.
    have ends : ∀ d ∈ rest.head?, d ≠ c := by
      rintro d first rfl
      exact (apart d first).token (isToken_singleton_iff.mpr letter)
    rw [List.cons_append, tokenLength_append ends, length]

namespace IsColumnMask

/-- A letter of years can be taken off the front. -/
theorem tail_of_year (fixed : IsColumnMask ('y' :: rest)) : IsColumnMask rest := by
  generalize whole : 'y' :: rest = mask at fixed
  cases fixed with
  | done => cases whole
  | separator _ behind =>
    cases whole
    exact behind
  | token fixed apart behind =>
    simp only [columnTokens, List.mem_cons, List.not_mem_nil, or_false] at fixed
    rcases fixed with rfl | rfl | rfl | rfl | rfl | rfl | rfl | rfl | rfl
    case inr.inr.inl =>
      -- The second letter of a token is a separator then.
      cases whole
      exact .separator isSeparator_year behind
    all_goals cases whole

/-- A row of letters of years can be taken off the front. -/
theorem drop_years (fixed : IsColumnMask mask) {count : Nat} (run : count ≤ runLength 'y' mask) :
    IsColumnMask (mask.drop count) := by
  obtain ⟨rest, rfl⟩ := replicate_prefix_iff.mpr run
  rw [List.drop_left' List.length_replicate]
  clear run
  -- The letters are taken off one by one, whether they belong to tokens or not.
  induction count with
  | zero => exact fixed
  | succ count ih => exact ih fixed.tail_of_year

/-- A row of letters of years at the front is cut into short years and full ones. -/
theorem cut_year (fixed : IsColumnMask ('y' :: rest)) (some : 0 < tokenLength ('y' :: rest)) :
    MaskPiece.IsColumn (.token (('y' :: rest).take (tokenLength ('y' :: rest)))) ∧
      IsColumnMask (('y' :: rest).drop (tokenLength ('y' :: rest))) := by
  -- A year is cut off with two digits or with four.
  have count : tokenLength ('y' :: rest) ≤ runLength 'y' ('y' :: rest) ∧
      (tokenLength ('y' :: rest) = 2 ∨ tokenLength ('y' :: rest) = 4) := by
    revert some
    simp only [tokenLength]
    split_ifs <;> omega
  obtain ⟨run, length⟩ := count
  refine ⟨?_, fixed.drop_years run⟩
  rw [take_eq_replicate run]
  rcases length with length | length
  all_goals rw [length]
  · exact .token (by decide)
  · exact .year

/-- The token at the front of such a mask has a fixed number of digits, and what is behind it is
such a mask again. -/
theorem cut_token (fixed : IsColumnMask mask) (some : 0 < tokenLength mask) :
    MaskPiece.IsColumn (.token (mask.take (tokenLength mask))) ∧
      IsColumnMask (mask.drop (tokenLength mask)) := by
  cases fixed with
  | done => exact absurd some (Nat.lt_irrefl 0)
  | separator other behind =>
    obtain rfl := other.eq_year some
    exact cut_year (.separator other behind) some
  | @token text rest fixed apart behind =>
    -- Only short years can stand side by side, and be taken for a full one.
    by_cases short : text = ['y', 'y']
    · subst short
      exact cut_year (.token fixed apart behind) some
    · rw [tokenLength_column fixed short apart, List.take_left, List.drop_left]
      exact ⟨.token fixed, behind⟩

/-- Where no token is at the front of such a mask, a separator is. -/
theorem cut_separator (fixed : IsColumnMask (c :: rest)) (none : tokenLength (c :: rest) = 0) :
    IsSeparator c ∧ IsColumnMask rest := by
  generalize whole : c :: rest = mask at fixed
  cases fixed with
  | done => cases whole
  | separator other behind =>
    cases whole
    exact ⟨other, behind⟩
  | @token text after fixed apart behind =>
    -- A token in front would be counted.
    have token := isToken_of_column fixed
    have counted := token.length_le (List.prefix_append text after)
    have pos := token.length_pos
    rw [whole] at none
    omega

/-- All pieces of such a mask are separators and tokens with a fixed number of digits. -/
theorem pieces (fixed : IsColumnMask mask) : ∀ piece ∈ maskPieces mask, piece.IsColumn := by
  -- Each cut leaves such a mask behind it.
  fun_induction maskPieces mask with
  | case1 => exact List.forall_mem_nil _
  | case2 c rest count some ih =>
    obtain ⟨column, behind⟩ := fixed.cut_token some
    exact List.forall_mem_cons.mpr ⟨column, ih behind⟩
  | case3 c rest count none closed ih =>
    exact absurd closed.1 (fixed.cut_separator (by omega)).1.quote
  | case4 c rest count none unclosed ih =>
    obtain ⟨other, behind⟩ := fixed.cut_separator (by omega)
    exact List.forall_mem_cons.mpr ⟨.separator other, ih behind⟩

end IsColumnMask

end Cut

/-- A text has some characters more than a part of a mask, and as many bytes more. -/
structure IsLonger (text part : List Char) (more : Nat) : Prop where
  characters : text.length = part.length + more
  bytes : byteLength text = byteLength part + more

/-- What a mask grows by when it is written: `l` has three digits, and `L` has two, or three late in
a second. -/
def widening (late : Bool) (mask : List Char) : Nat :=
  2 * mask.count 'l' + (if late then 2 else 1) * mask.count 'L'

/-- A year whose text has four characters: it has four digits, or three behind a minus. -/
def Civil.HasFourPlaces (civil : Civil) : Prop :=
  1000 ≤ civil.year ∧ civil.year ≤ 9999 ∨ -999 ≤ civil.year ∧ civil.year ≤ -100

instance (civil : Civil) : Decidable civil.HasFourPlaces :=
  inferInstanceAs (Decidable (_ ∨ _))

section Length

variable {text part : List Char} {more : Nat}

/-- Texts one after the other are longer than the parts together by both numbers. -/
theorem IsLonger.append (longer : IsLonger text part more) {behind rest : List Char} {further : Nat}
    (also : IsLonger behind rest further) :
    IsLonger (text ++ behind) (part ++ rest) (more + further) := by
  obtain ⟨characters, bytes⟩ := longer
  obtain ⟨charactersToo, bytesToo⟩ := also
  -- Lengths are added on both sides.
  constructor
  · rw [List.length_append, List.length_append]
    omega
  · rw [byteLength_append, byteLength_append]
    omega

/-- A mask grows by what its parts grow by. -/
theorem widening_append (late : Bool) (front back : List Char) :
    widening late (front ++ back) = widening late front + widening late back := by
  -- Letters are counted on each side.
  simp only [widening, List.count_append, Nat.mul_add]
  omega

/-- Digits take one byte each. -/
theorem byteLength_lastDigits (count number : Nat) :
    byteLength (lastDigits count number) = count := by
  have digit : ∀ n : Fin 10, n.val.digitChar.utf8Size = 1 := by decide
  induction count generalizing number with
  | zero => rfl
  -- One digit is taken from the end, and it is a letter of one byte.
  | succ count ih =>
    have last := digit ⟨number % 10, Nat.mod_lt number (by decide)⟩
    rw [lastDigits, byteLength_append, ih, byteLength, byteLength, last]

/-- The digits of a number are longer than a token by those that it has no letters for. -/
theorem isLonger_lastDigits {count : Nat} (number : Nat) (letters : byteLength part = part.length)
    (wide : count = part.length + more) : IsLonger (lastDigits count number) part more :=
  -- A digit and a letter of a token are one character and one byte each.
  ⟨(length_lastDigits count number).trans wide,
    (byteLength_lastDigits count number).trans (letters ▸ wide)⟩

end Length

section Written

variable {civil : Civil}

/-- A year with four characters is written with four digits, or with a minus and three. -/
theorem Civil.HasFourPlaces.year_repr (four : civil.HasFourPlaces) :
    ∃ number, civil.year.repr.toList = lastDigits 4 number ∨
      civil.year.repr.toList = '-' :: lastDigits 3 number := by
  rcases four with ⟨least, most⟩ | ⟨least, most⟩
  -- From a thousand on there are four digits.
  · exact ⟨_, .inl (Civil.year_repr least (Int.lt_add_one_of_le most))⟩
  · obtain ⟨year, known⟩ := Int.eq_negSucc_of_lt_zero (show civil.year < 0 by omega)
    have digits : Nat.toDigits 10 (year + 1) = lastDigits 3 (year + 1) :=
      toDigits_eq_lastDigits (show 100 ≤ year + 1 by omega) (show year + 1 < 1000 by omega)
    refine ⟨year + 1, .inr ?_⟩
    rw [known, ← digits]
    simp [Int.repr]

/-- A year with four characters is as long as its token, in full and without its century. -/
theorem Civil.HasFourPlaces.isLonger (four : civil.HasFourPlaces) (zone : Zone) :
    IsLonger ((Field.year true).write civil zone) ['y', 'y', 'y', 'y'] 0 ∧
      IsLonger ((Field.year false).write civil zone) ['y', 'y'] 0 := by
  have full : (Field.year true).write civil zone = civil.year.repr.toList := rfl
  have short : (Field.year false).write civil zone = civil.year.repr.toList.drop 2 := rfl
  obtain ⟨number, text⟩ := four.year_repr
  have century : IsLonger (lastDigits 2 number) ['y', 'y'] 0 :=
    isLonger_lastDigits number (by decide) rfl
  rw [full, short]
  rcases text with text | text
  all_goals
    rw [text]
    refine ⟨?_, century⟩
  · exact isLonger_lastDigits number (by decide) rfl
  · -- The minus stands for the first letter.
    have minus : IsLonger ['-'] ['y'] 0 := ⟨rfl, by decide⟩
    have digits : IsLonger (lastDigits 3 number) ['y', 'y', 'y'] 0 :=
      isLonger_lastDigits number (by decide) rfl
    exact minus.append digits

/-- A separator is written as it is, and no digits are added to it. -/
theorem IsSeparator.isLonger {c : Char} (other : IsSeparator c) (late : Bool) :
    IsLonger [c] [c] (widening late [c]) := by
  -- The letters of parts of a second are tokens alone.
  have letters : c ≠ 'l' ∧ c ≠ 'L' := by
    constructor <;> rintro rfl <;> exact other.token (.lone (by decide))
  have same : widening late [c] = 0 := by
    simp [widening, letters.1, letters.2]
  rw [same]
  exact ⟨rfl, rfl⟩

/-- Hundredths of a second have two digits, and three from the last five milliseconds on. -/
theorem isLonger_centisecond (zone : Zone) :
    IsLonger (Field.centisecond.write civil zone) ['L']
      (widening (995 ≤ civil.millisecond) ['L']) := by
  rw [write_centisecond]
  -- Only where hundredths are rounded up to a whole second, there are three digits.
  by_cases late : 995 ≤ civil.millisecond
  · have three : widening (995 ≤ civil.millisecond) ['L'] = 2 := by simp [widening, late]
    rw [three, if_neg (by omega), if_neg (by omega)]
    exact ⟨rfl, by decide⟩
  · have two : widening (995 ≤ civil.millisecond) ['L'] = 1 := by simp [widening, late]
    rw [two, if_pos (by omega : civil.millisecond < 995)]
    split
    all_goals exact isLonger_lastDigits _ (by decide) rfl

/-- A piece of a mask with a fixed number of digits has that number when it is written, a year where
it has four characters. -/
theorem MaskPiece.IsColumn.isLonger {piece : MaskPiece} (column : piece.IsColumn)
    (valid : civil.Valid) (zone : Zone)
    (four : ['y', 'y'] <:+: piece.source → civil.HasFourPlaces) :
    IsLonger (piece.write civil zone) piece.source
      (widening (995 ≤ civil.millisecond) piece.source) := by
  -- Two letters make room for the two digits of a number.
  have pair {letter : Char} (late : Bool) (other : letter ∉ ['l', 'L']) :
      widening late [letter, letter] = 0 := by
    simp only [List.mem_cons, List.not_mem_nil, or_false, not_or] at other
    simp [widening, other.1, other.2]
  have short {letter : Char} {number : Nat} (counts : civil.Counts letter number) :
      IsLonger (shortNat true number) [letter, letter]
        (widening (995 ≤ civil.millisecond) [letter, letter]) := by
    have other : letter ∉ ['l', 'L'] ∧ letter.utf8Size = 1 := by cases counts <;> decide
    rw [pair _ other.1, shortNat_eq_lastDigits (counts.lt valid)]
    exact isLonger_lastDigits number (by simp [byteLength, other.2]) rfl
  cases column with
  | separator other => exact other.isLonger _
  | year => exact ((four (by decide)).isLonger zone).1
  | token fixed =>
    simp only [columnTokens, List.mem_cons, List.not_mem_nil, or_false] at fixed
    rcases fixed with rfl | rfl | rfl | rfl | rfl | rfl | rfl | rfl | rfl
    · exact short .day
    · exact short .month
    · exact ((four (by decide)).isLonger zone).2
    · exact short civil.counts_halfDayHour
    · exact short .hour
    · exact short .minute
    · exact short .second
    · have longer : IsLonger (lastDigits 3 civil.millisecond) ['l'] 2 :=
        isLonger_lastDigits _ (by decide) rfl
      rw [← write_millisecond civil zone] at longer
      exact longer
    · exact isLonger_centisecond zone

/-- What is written piece by piece is longer than the pieces are together. -/
theorem isLonger_flatMap {pieces : List MaskPiece} {late : Bool} {zone : Zone}
    (each : ∀ piece ∈ pieces,
      IsLonger (piece.write civil zone) piece.source (widening late piece.source)) :
    IsLonger (pieces.flatMap (·.write civil zone)) (pieces.flatMap MaskPiece.source)
      (widening late (pieces.flatMap MaskPiece.source)) := by
  -- What is written is put together as the pieces are.
  induction pieces with
  | nil => exact ⟨rfl, rfl⟩
  | cons piece pieces ih =>
    obtain ⟨first, behind⟩ := List.forall_mem_cons.mp each
    rw [List.flatMap_cons, List.flatMap_cons, widening_append]
    exact first.append (ih behind)

end Written

/-- Masks with a fixed number of digits have no letter of the half of the day. -/
theorem IsColumnMask.not_mem_halfDay {mask : List Char} (fixed : IsColumnMask mask) {c : Char}
    (half : c = 't' ∨ c = 'T') : c ∉ mask := by
  induction fixed with
  | done => exact List.not_mem_nil
  | separator other _ ih =>
    -- Such a letter is a token alone.
    have counted : 0 < tokenLength [c] := by rcases half with rfl | rfl <;> decide
    refine List.not_mem_cons_of_ne_of_not_mem ?_ ih
    rintro rfl
    exact other.token (isToken_singleton_iff.mpr counted)
  | token fixed _ _ ih =>
    have none : ∀ text ∈ columnTokens, 't' ∉ text ∧ 'T' ∉ text := by decide
    obtain ⟨small, large⟩ := none _ fixed
    refine List.not_mem_append ?_ ih
    rcases half with rfl | rfl
    · exact small
    · exact large

/-- A mask with a fixed number of digits stands for itself: it is no name of a mask, and not marked
as being for universal time. -/
theorem IsColumnMask.plain {mask : String} (fixed : IsColumnMask mask.toList)
    (nonempty : mask ≠ "") : IsPlainMask mask where
  nonempty := nonempty
  unnamed := by
    -- Each name of a mask has a letter of the half of the day.
    have named : ∀ pair ∈ namedMasks, 't' ∈ pair.1.toList ∨ 'T' ∈ pair.1.toList := by
      simp [namedMasks]
    refine List.lookup_eq_none_iff.mpr fun pair member => ?_
    rw [bne_iff_ne]
    rintro rfl
    rcases named pair member with half | half
    · exact fixed.not_mem_halfDay (.inl rfl) half
    · exact fixed.not_mem_halfDay (.inr rfl) half
  unmarked := by
    rintro ⟨rest, whole⟩
    have half : 'T' ∈ mask.toList := by simp [← whole]
    exact fixed.not_mem_halfDay (.inr rfl) half

/-- Masks with a fixed number of digits are written in a fixed length.

It is the length of the mask where `l` counts as three characters and `L` as two, for all dates, in
universal time or not, and in leap seconds. Only from the last five milliseconds of a second on, `L`
counts as three, and a short year is one of a year that has four characters. -/
theorem format_length {moment : Moment} (valid : moment.Valid) {mask : String}
    (nonempty : mask ≠ "") (fixed : IsColumnMask mask.toList) (utc : Bool)
    (four : ['y', 'y'] <:+: mask.toList → (moment.shown utc).HasFourPlaces) :
    let more := widening (995 ≤ moment.civil.millisecond) mask.toList
    (moment.format mask utc).length = mask.length + more ∧
      (moment.format mask utc).utf8ByteSize = mask.utf8ByteSize + more := by
  intro more
  have tiles := (maskPieces_scan mask.toList).tiles
  -- Universal time has the same part of a second.
  have late : (moment.shown utc).millisecond = moment.civil.millisecond := by cases utc <;> rfl
  have each : ∀ piece ∈ maskPieces mask.toList,
      IsLonger (piece.write (moment.shown utc) (moment.shownZone utc)) piece.source
        (widening (995 ≤ moment.civil.millisecond) piece.source) := by
    intro piece member
    -- A piece with the letters of a short year is a part of the mask.
    have within : piece.source <:+: mask.toList := by
      rw [← tiles, List.flatMap_def]
      exact List.infix_of_mem_flatten (List.mem_map_of_mem member)
    rw [← late]
    exact (fixed.pieces piece member).isLonger (valid.shown utc) _ fun year =>
      four (year.trans within)
  have longer := isLonger_flatMap each
  rw [tiles, ← format_plain (fixed.plain nonempty)] at longer
  obtain ⟨characters, bytes⟩ := longer
  rw [String.length_toList, String.length_toList] at characters
  rw [byteLength_toList, byteLength_toList] at bytes
  exact ⟨characters, bytes⟩

/-- A leap second of years before the first one, with hundredths of three digits and a separator of
three bytes. -/
theorem format_length_leap :
    let leap : Moment := ⟨⟨-500, 12, 31, 23, 59, 59, 1500000000⟩, -3600⟩
    leap.Valid ∧ IsColumnMask "yy❤L".toList ∧ (leap.shown true).HasFourPlaces ∧
      (leap.format "yy❤L" true).length = 6 ∧ (leap.format "yy❤L" true).utf8ByteSize = 8 := by
  intro leap
  have valid : leap.Valid := by decide
  -- A heart is one character, but it takes three bytes.
  have heart : IsSeparator '❤' := ⟨mt isToken_singleton_iff.mp (by decide), by decide⟩
  have hundredths : IsColumnMask ['L'] := @IsColumnMask.token ['L'] [] (by decide) (by simp) .done
  have fixed : IsColumnMask "yy❤L".toList :=
    @IsColumnMask.token ['y', 'y'] ['❤', 'L'] (by decide) (by simpa using heart)
      (.separator heart hundredths)
  have four : (leap.shown true).HasFourPlaces := by decide
  obtain ⟨characters, bytes⟩ := format_length valid (by decide) fixed true fun _ => four
  exact ⟨valid, fixed, four, characters.trans (by decide), bytes.trans (by decide)⟩

/-- Late in a second the hundredths have three digits, and a year of five characters has three of
them behind its century: the same masks are written in other lengths. -/
theorem format_length_varies :
    let early : Moment := ⟨⟨2026, 1, 2, 0, 7, 3, 45000000⟩, 0⟩
    let late : Moment := ⟨⟨2026, 1, 2, 0, 7, 3, 996000000⟩, 0⟩
    let future : Moment := ⟨⟨12345, 1, 2, 0, 7, 3, 45000000⟩, 0⟩
    (early.Valid ∧ late.Valid ∧ future.Valid) ∧
      (IsColumnMask "L".toList ∧
        (late.format "L" false).length ≠ (early.format "L" false).length) ∧
      IsColumnMask "yy".toList ∧
        (future.format "yy" false).length ≠ (early.format "yy" false).length := by
  intro early late future
  have hundredths : IsColumnMask "L".toList :=
    @IsColumnMask.token ['L'] [] (by decide) (by simp) .done
  have year : IsColumnMask "yy".toList :=
    @IsColumnMask.token ['y', 'y'] [] (by decide) (by simp) .done
  -- Both masks are a single token, so that their texts can be compared.
  have pieces : maskPieces "L".toList = [.token ['L']] := by cbv
  have piecesToo : maskPieces "yy".toList = [.token ['y', 'y']] := by cbv
  refine ⟨by decide, ⟨hundredths, ?_⟩, year, ?_⟩
  · simp only [← String.length_toList, format_plain (hundredths.plain (by decide)), pieces]
    decide
  · simp only [← String.length_toList, format_plain (year.plain (by decide)), piecesToo]
    decide

end TextTemplate
