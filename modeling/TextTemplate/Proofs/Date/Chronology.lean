import Mathlib.Data.String.Basic
import Mathlib.Order.Monotone.Basic
import TextTemplate.Proofs.Date.Token
import TextTemplate.Proofs.Text.ByteOrder

/-! Dates and times in the international form are in the order of time, byte by byte. -/

namespace TextTemplate

section Days

variable {year : Int} {month day : Nat}

/-- The days of a month follow each other. -/
theorem dayNumber_eq_first (year : Int) (month : Nat) {day : Nat} (pos : 1 ≤ day) :
    dayNumber year month day = dayNumber year month 1 + (day - 1 : Nat) := by
  -- The day of the month is added to a number that depends on the month alone.
  simp only [dayNumber]
  omega

/-- A month of any year has some days. -/
theorem lengthOfMonth_pos (year : Int) (month : Nat) : 1 ≤ lengthOfMonth year month := by
  -- Every branch of the calendar is a number above zero.
  unfold lengthOfMonth
  split_ifs <;> decide

/-- The first day of a month is a date. -/
theorem isDate_first (year : Int) (pos : 1 ≤ month) (le : month ≤ 12) : IsDate year month 1 :=
  ⟨pos, le, Nat.le_refl 1, lengthOfMonth_pos year month⟩

/-- The last day of a month is a date. -/
theorem isDate_last (year : Int) (pos : 1 ≤ month) (le : month ≤ 12) :
    IsDate year month (lengthOfMonth year month) :=
  ⟨pos, le, lengthOfMonth_pos year month, Nat.le_refl _⟩

/-- No day of a month comes behind the last one. -/
theorem IsDate.le_last (date : IsDate year month day) :
    dayNumber year month day ≤ dayNumber year month (lengthOfMonth year month) := by
  -- Within one month, days are numbered by their place in it.
  have within := date.day_le
  rw [dayNumber_eq_first year month date.day_pos,
    dayNumber_eq_first year month (lengthOfMonth_pos year month)]
  omega

/-- A day of a month comes before the first one of the next month. -/
theorem IsDate.lt_nextMonth (date : IsDate year month day) (more : month < 12) :
    dayNumber year month day < dayNumber year (month + 1) 1 := by
  -- The day behind the last one of the month is the first of the next.
  have ends := date.le_last
  have next := (dayNumber_nextDay (isDate_last year date.month_pos date.month_le)).2
  rw [nextDay, if_neg (Nat.lt_irrefl _), if_pos more] at next
  dsimp only at next
  omega

/-- A day of a month comes before those of later months of the year. -/
theorem IsDate.lt_laterMonth (date : IsDate year month day) {later : Nat} (before : month < later)
    (le : later ≤ 12) : dayNumber year month day < dayNumber year later 1 := by
  -- The months between are passed one by one.
  induction later, before using Nat.le_induction with
  | base => exact date.lt_nextMonth (by omega)
  | succ later before ih =>
    have first : IsDate year later 1 := isDate_first year (by omega) (by omega)
    exact (ih (by omega)).trans (first.lt_nextMonth (by omega))

/-- A day of a year comes before the first one of the next year. -/
theorem IsDate.lt_nextYear (date : IsDate year month day) :
    dayNumber year month day < dayNumber (year + 1) 1 1 := by
  -- December is the last month, and the other months come before it.
  have december : ∀ {day}, IsDate year 12 day →
      dayNumber year 12 day < dayNumber (year + 1) 1 1 := by
    intro day date
    have ends := date.le_last
    have next := (dayNumber_nextDay (isDate_last year date.month_pos date.month_le)).2
    rw [nextDay, if_neg (Nat.lt_irrefl _), if_neg (Nat.lt_irrefl _)] at next
    dsimp only at next
    omega
  by_cases last : month = 12
  · subst last
    exact december date
  · have before : month < 12 := Nat.lt_of_le_of_ne date.month_le last
    have first : IsDate year 12 1 := isDate_first year (by decide) (by decide)
    exact (date.lt_laterMonth before (Nat.le_refl 12)).trans (december first)

/-- Years begin in their order. -/
theorem dayNumber_newYear_le {later : Int} (le : year ≤ later) :
    dayNumber year 1 1 ≤ dayNumber later 1 1 := by
  -- Each year begins before the next one, and so before all later ones.
  have next : ∀ year, dayNumber year 1 1 < dayNumber (year + 1) 1 1 := fun year =>
    (isDate_first year (Nat.le_refl 1) (by decide)).lt_nextYear
  exact (strictMono_int_of_lt_succ next).monotone le

/-- No day of a month comes before the first one. -/
theorem IsDate.first_le (date : IsDate year month day) :
    dayNumber year month 1 ≤ dayNumber year month day := by
  rw [dayNumber_eq_first year month date.day_pos]
  omega

/-- No day of a year comes before the first one. -/
theorem IsDate.newYear_le (date : IsDate year month day) :
    dayNumber year 1 1 ≤ dayNumber year month day := by
  refine le_trans ?_ date.first_le
  -- January begins the year, and other months come behind its days.
  rcases Nat.eq_or_lt_of_le date.month_pos with rfl | later
  · exact le_refl _
  · have first : IsDate year 1 1 := isDate_first year (Nat.le_refl 1) (by decide)
    exact (first.lt_laterMonth later date.month_le).le

/-- Days are numbered in the order of their years, months and days of the month. -/
theorem IsDate.dayNumber_lt {laterYear : Int} {laterMonth laterDay : Nat}
    (date : IsDate year month day) (later : IsDate laterYear laterMonth laterDay)
    (before : year < laterYear ∨ year = laterYear ∧
      (month < laterMonth ∨ month = laterMonth ∧ day < laterDay)) :
    dayNumber year month day < dayNumber laterYear laterMonth laterDay := by
  rcases before with before | ⟨rfl, before | ⟨rfl, before⟩⟩
  · -- The year is over before the later one begins.
    calc dayNumber year month day
      _ < dayNumber (year + 1) 1 1 := date.lt_nextYear
      _ ≤ dayNumber laterYear 1 1 := dayNumber_newYear_le before
      _ ≤ dayNumber laterYear laterMonth laterDay := later.newYear_le
  -- The month is over before the later one begins.
  · exact (date.lt_laterMonth before later.month_le).trans_le later.first_le
  · rw [dayNumber_eq_first year month date.day_pos, dayNumber_eq_first year month later.day_pos]
    have pos := date.day_pos
    omega

end Days

namespace Civil

/-- A date and time without the parts of its second. -/
def wholeSecond (civil : Civil) : Civil :=
  { civil with nanosecond := 0 }

/-- The fields of a date and time down to its second, the greatest first. -/
def fields (civil : Civil) : List Int :=
  [civil.year, civil.month, civil.day, civil.hour, civil.minute, civil.second]

variable {left right : Civil}

/-- Dates and times are in the order of their fields, of which the first that differs counts. -/
theorem seconds_lt_iff (valid : left.Valid) (also : right.Valid) :
    left.seconds < right.seconds ↔ left.fields < right.fields := by
  have before := valid.date.dayNumber_lt also.date
  have behind := also.date.dayNumber_lt valid.date
  have same : left.year = right.year → left.month = right.month → left.day = right.day →
      left.dayNumber = right.dayNumber := by
    intro year month day
    rw [Civil.dayNumber, Civil.dayNumber, year, month, day]
  obtain ⟨-, hour, minute, second, -⟩ := valid
  obtain ⟨-, hourToo, minuteToo, secondToo, -⟩ := also
  -- What is left is of numbers: the days as above, and clocks that stay below a day.
  simp only [fields, List.cons_lt_cons_iff, Int.ofNat_lt, Int.ofNat_inj, List.not_lt_nil, and_false,
    or_false]
  simp only [Civil.seconds, Civil.dayNumber] at *
  omega

/-- Two dates and times are one to the second where they are as many seconds from the start of
1970. -/
theorem wholeSecond_eq_iff (valid : left.Valid) (also : right.Valid) :
    left.wholeSecond = right.wholeSecond ↔ left.seconds = right.seconds := by
  -- The calendar and the clock are read off the seconds again.
  have whole : ∀ {civil : Civil}, civil.Valid →
      civil.wholeSecond = ofSeconds civil.seconds 0 := by
    intro civil valid
    have least : (0 : Nat) < 2 * 1000000000 := by decide
    have some : civil.wholeSecond.Valid := { valid with nanosecond_lt := least }
    exact some.ofSeconds_seconds.symm
  constructor
  · intro same
    have seconds : left.wholeSecond.seconds = right.wholeSecond.seconds := by rw [same]
    exact seconds
  · intro same
    rw [whole valid, whole also, same]

/-- A date and time in the international form, with some text behind it. -/
def stamp (civil : Civil) (rest : List Char) : List Char :=
  lastDigits 4 civil.year.toNat ++ '-' :: (lastDigits 2 civil.month ++ '-' ::
    (lastDigits 2 civil.day ++ 'T' :: (lastDigits 2 civil.hour ++ ':' ::
      (lastDigits 2 civil.minute ++ ':' :: (lastDigits 2 civil.second ++ rest)))))

/-- A year is one of four digits. -/
def HasLongYear (civil : Civil) : Prop :=
  1000 ≤ civil.year ∧ civil.year ≤ 9999

/-- Each field has a number of digits of its own, so that texts compare field by field. -/
theorem stamp_lt_iff (valid : left.Valid) (also : right.Valid) (long : left.HasLongYear)
    (longToo : right.HasLongYear) (rest : List Char) :
    left.stamp rest < right.stamp rest ↔ left.fields < right.fields := by
  obtain ⟨least, most⟩ := long
  obtain ⟨leastToo, mostToo⟩ := longToo
  have year (front back : List Char) :=
    @lastDigits_append_lt_iff 4 left.year.toNat right.year.toNat
      (show left.year.toNat < 10000 by omega) (show right.year.toNat < 10000 by omega) front back
  have short {letter : Char} {number other : Nat} (counts : left.Counts letter number)
      (countsToo : right.Counts letter other) (front back : List Char) :=
    @lastDigits_append_lt_iff 2 number other (counts.lt valid) (countsToo.lt also) front back
  have none : ¬rest < rest := List.lt_irrefl rest
  -- Where a field is the same, the rest of the text decides, and at the end nothing is left.
  simp only [stamp, fields, year, short .month .month, short .day .day, short .hour .hour,
    short .minute .minute, short .second .second, List.cons_lt_cons_self]
  simp only [List.cons_lt_cons_iff, Int.ofNat_lt, Int.ofNat_inj, List.not_lt_nil, none, and_false,
    or_false]
  omega

/-- Texts in the international form are in the order of time, and one text is one second. -/
theorem stamp_ordered (valid : left.Valid) (also : right.Valid) (long : left.HasLongYear)
    (longToo : right.HasLongYear) {rest : List Char} {text other : String}
    (written : text.toList = left.stamp rest) (writtenToo : other.toList = right.stamp rest) :
    (utf8 text < utf8 other ↔ left.seconds < right.seconds) ∧
      (text = other ↔ left.wholeSecond = right.wholeSecond) := by
  -- Bytes compare as characters do, these as the fields, and these as the seconds.
  have before : utf8 text < utf8 other ↔ left.seconds < right.seconds := by
    rw [utf8_lt_iff, String.lt_iff_toList_lt, written, writtenToo,
      stamp_lt_iff valid also long longToo, seconds_lt_iff valid also]
  have behind : utf8 other < utf8 text ↔ right.seconds < left.seconds := by
    rw [utf8_lt_iff, String.lt_iff_toList_lt, written, writtenToo,
      stamp_lt_iff also valid longToo long, seconds_lt_iff also valid]
  refine ⟨before, ?_⟩
  constructor
  · -- Neither of two texts that are the same comes before the other.
    rintro rfl
    have none := List.lt_irrefl (utf8 text)
    have notBefore := mt before.mpr none
    have notBehind := mt behind.mpr none
    exact (wholeSecond_eq_iff valid also).mpr (by omega)
  · -- One second has one text, with the same end behind it.
    intro same
    have stamps : left.wholeSecond.stamp rest = right.wholeSecond.stamp rest := by rw [same]
    exact String.toList_inj.mp (written.trans (stamps.trans writtenToo.symm))

end Civil

section Format

variable {civil : Civil}

/-- The pieces of the mask of the international form, down to the second. -/
def stampPieces : List MaskPiece :=
  [.token ['y', 'y', 'y', 'y'], .single '-', .token ['m', 'm'], .single '-', .token ['d', 'd'],
    .quotation '\x27' ['T'], .token ['H', 'H'], .single ':', .token ['M', 'M'], .single ':',
    .token ['s', 's']]

/-- The mask of the international form is written as that form, with other pieces behind it. -/
theorem write_stamp (valid : civil.Valid) (long : civil.HasLongYear) (zone : Zone)
    (pieces : List MaskPiece) :
    (stampPieces ++ pieces).flatMap (·.write civil zone) =
      civil.stamp (pieces.flatMap (·.write civil zone)) := by
  have year : civil.year.repr.toList = lastDigits 4 civil.year.toNat :=
    civil.year_repr long.1 (Int.lt_add_one_of_le long.2)
  have short {letter : Char} {number : Nat} (counts : civil.Counts letter number) :=
    shortNat_eq_lastDigits (counts.lt valid)
  -- Each token is written as its field, and the signs between them as they are.
  calc (stampPieces ++ pieces).flatMap (·.write civil zone)
    _ = civil.year.repr.toList ++ '-' :: (shortNat true civil.month ++ '-' ::
        (shortNat true civil.day ++ 'T' :: (shortNat true civil.hour ++ ':' ::
          (shortNat true civil.minute ++ ':' :: (shortNat true civil.second ++
            pieces.flatMap (·.write civil zone)))))) := rfl
    _ = civil.stamp (pieces.flatMap (·.write civil zone)) := by
      rw [year, short .month, short .day, short .hour, short .minute, short .second, Civil.stamp]

/-- The international form in universal time does not depend on the flag. -/
theorem format_isoUtcDateTime {moment : Moment} (valid : moment.Valid)
    (long : moment.universal.HasLongYear) (utc : Bool) :
    (moment.format "isoUtcDateTime" utc).toList = moment.universal.stamp ['Z'] := by
  -- The mask is one of the named ones, and marked as being for universal time.
  have select : splitUtc (selectMask "isoUtcDateTime") =
      (true, "yyyy-mm-dd\x27T\x27HH:MM:ss\x27Z\x27".toList) := by decide
  have pieces : maskPieces "yyyy-mm-dd\x27T\x27HH:MM:ss\x27Z\x27".toList =
      stampPieces ++ [.quotation '\x27' ['Z']] := by cbv
  simp only [Moment.format, select, Bool.or_true, if_true, String.toList_ofList]
  rw [pieces, write_stamp valid.universal long]
  rfl

/-- The international form in local time is that of the clock in the zone. -/
theorem format_isoDateTime {moment : Moment} (valid : moment.Valid)
    (long : moment.civil.HasLongYear) :
    (moment.format "isoDateTime" false).toList = moment.civil.stamp [] := by
  -- The mask is one of the named ones, and it is not marked.
  have select : splitUtc (selectMask "isoDateTime") =
      (false, "yyyy-mm-dd\x27T\x27HH:MM:ss".toList) := by decide
  have pieces : maskPieces "yyyy-mm-dd\x27T\x27HH:MM:ss".toList =
      stampPieces ++ [] := by cbv
  simp only [Moment.format, select, Bool.or_false, Bool.false_eq_true, if_false,
    String.toList_ofList]
  rw [pieces, write_stamp valid.civil long]
  rfl

/-- Texts in the international form are in the order of time.

Of years from 1000 to 9999, the texts in universal time compare byte by byte as the whole seconds of
universal time do, in whatever zones the moments are and with or without the flag; two texts are the
same where these seconds are. The same holds of local texts and of the clocks of the zones. A leap
second is a part of the second that it follows, and parts of a second do not count. -/
theorem format_chronological {left right : Moment} (valid : left.Valid) (also : right.Valid) :
    (left.universal.HasLongYear → right.universal.HasLongYear → ∀ utc flag,
      let text := left.format "isoUtcDateTime" utc
      let other := right.format "isoUtcDateTime" flag
      (utf8 text < utf8 other ↔ left.universal.seconds < right.universal.seconds) ∧
        (text = other ↔ left.universal.wholeSecond = right.universal.wholeSecond)) ∧
      (left.civil.HasLongYear → right.civil.HasLongYear →
        let text := left.format "isoDateTime" false
        let other := right.format "isoDateTime" false
        (utf8 text < utf8 other ↔ left.civil.seconds < right.civil.seconds) ∧
          (text = other ↔ left.civil.wholeSecond = right.civil.wholeSecond)) := by
  -- Both masks show the same stamp, of two different times.
  constructor
  · intro long longToo utc flag
    exact Civil.stamp_ordered valid.universal also.universal long longToo
      (format_isoUtcDateTime valid long utc) (format_isoUtcDateTime also longToo flag)
  · intro long longToo
    exact Civil.stamp_ordered valid.civil also.civil long longToo
      (format_isoDateTime valid long) (format_isoDateTime also longToo)

/-- A leap second at the end of a year comes before an hour of the next year, although the clock of
that zone still shows the old one. -/
theorem format_chronological_zones :
    let leap : Moment := ⟨⟨2026, 12, 31, 23, 59, 59, 1500000000⟩, 0⟩
    let later : Moment := ⟨⟨2026, 12, 31, 20, 0, 0, 0⟩, -18000⟩
    leap.Valid ∧ later.Valid ∧ leap.universal.HasLongYear ∧ later.universal.HasLongYear ∧
      leap.civil.HasLongYear ∧ later.civil.HasLongYear ∧
      utf8 (leap.format "isoUtcDateTime" false) < utf8 (later.format "isoUtcDateTime" true) ∧
      utf8 (later.format "isoDateTime" false) < utf8 (leap.format "isoDateTime" false) ∧
      leap.format "isoUtcDateTime" false ≠ later.format "isoUtcDateTime" true := by
  intro leap later
  have valid : leap.Valid := by
    refine ⟨⟨⟨by decide, by decide, by decide, by decide⟩, ?_, ?_, ?_, ?_⟩, ?_⟩ <;> decide
  have also : later.Valid := by
    refine ⟨⟨⟨by decide, by decide, by decide, by decide⟩, ?_, ?_, ?_, ?_⟩, ?_⟩ <;> decide
  have long : leap.universal.HasLongYear ∧ leap.civil.HasLongYear :=
    ⟨⟨by decide, by decide⟩, by decide, by decide⟩
  have longToo : later.universal.HasLongYear ∧ later.civil.HasLongYear :=
    ⟨⟨by decide, by decide⟩, by decide, by decide⟩
  -- By universal time the leap second comes first, and by the clocks the other does.
  obtain ⟨universal, -⟩ := format_chronological valid also
  obtain ⟨-, zone⟩ := format_chronological also valid
  obtain ⟨before, same⟩ := universal long.1 longToo.1 false true
  refine ⟨valid, also, long.1, longToo.1, long.2, longToo.2, before.mpr (by decide),
    (zone longToo.2 long.2).1.mpr (by decide), mt same.mp (by decide)⟩

end Format

end TextTemplate
