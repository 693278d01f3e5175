import Mathlib.Tactic.SplitIfs
import Mathlib.Tactic.Tauto
import TextTemplate.Proofs.Date.Chronology
import TextTemplate.Proofs.Number.Whole

/-! A mask of all fields tells moments apart down to the millisecond, and their zones as well. -/

namespace TextTemplate

/-- A moment in no leap second, in a zone some whole minutes away from universal time. -/
structure Moment.IsRegular (moment : Moment) : Prop where
  valid : moment.Valid
  minutes : (60 : Int) ∣ moment.offset
  nanosecond_lt : moment.civil.nanosecond < 1000000000

instance (moment : Moment) : Decidable moment.IsRegular :=
  decidable_of_iff
    (moment.Valid ∧ (60 : Int) ∣ moment.offset ∧ moment.civil.nanosecond < 1000000000)
    ⟨fun all => ⟨all.1, all.2.1, all.2.2⟩,
      fun regular => ⟨regular.valid, regular.minutes, regular.nanosecond_lt⟩⟩

/-- The whole milliseconds from the start of 1970 to a moment. -/
def Moment.milliseconds (moment : Moment) : Int :=
  (moment.instant * 1000000000 + moment.civil.nanosecond) / 1000000

/-- One of two letters that differ tells a condition. -/
theorem letter_inj {p q : Prop} [Decidable p] [Decidable q] {letter other : Char}
    (differ : letter ≠ other) :
    ((if p then letter else other) = if q then letter else other) ↔ (p ↔ q) := by
  -- Where the conditions differ, so do the letters.
  split_ifs <;> simp [*, differ.symm]

section Zone

/-- The distance of a zone has a sign and four digits. -/
theorem Zone.Valid.length_distance {minutes : Int} (near : (Zone.east minutes).Valid) :
    (Zone.east minutes).distance.length = 5 := by
  simp [near.distance_eq]

/-- Zones are told apart by their distance, those of less than an hour by their sign as well. -/
theorem Zone.Valid.distance_inj {minutes other : Int} (near : (Zone.east minutes).Valid)
    (also : (Zone.east other).Valid) :
    (Zone.east minutes).distance = (Zone.east other).distance ↔ minutes = other := by
  -- Hours and minutes of the distance have two digits each.
  have digits {minutes : Int} (near : (Zone.east minutes).Valid) :
      minutes.natAbs / 60 < 100 ∧ minutes.natAbs % 60 < 100 := by
    simp only [Zone.Valid] at near
    omega
  rw [near.distance_eq, also.distance_eq, List.cons.injEq, letter_inj (by decide),
    lastDigits_append_inj (digits near).1 (digits also).1,
    lastDigits_inj (digits near).2 (digits also).2]
  omega

end Zone

namespace Civil

/-- A date and time down to the millisecond, with the hour that its clock shows and with some text
behind it. -/
def detail (civil : Civil) (hour : Nat) (rest : List Char) : List Char :=
  civil.year.repr.toList ++ '-' :: (lastDigits 2 civil.month ++ '-' ::
    (lastDigits 2 civil.day ++ ' ' :: (lastDigits 2 hour ++ ':' ::
      (lastDigits 2 civil.minute ++ ':' :: (lastDigits 2 civil.second ++ '.' ::
        (lastDigits 3 civil.millisecond ++ rest))))))

variable {left right : Civil}

/-- Each field is told by its digits, and the year by all that stands before the others. -/
theorem detail_inj (valid : left.Valid) (also : right.Valid) {hour other : Nat}
    (clock : hour < 100) (clockToo : other < 100) {rest behind : List Char}
    (even : rest.length = behind.length) :
    left.detail hour rest = right.detail other behind ↔
      (left.year = right.year ∧ left.month = right.month ∧ left.day = right.day) ∧
        (hour = other ∧ left.minute = right.minute ∧ left.second = right.second ∧
          left.millisecond = right.millisecond) ∧ rest = behind := by
  have short {letter : Char} {number other : Nat} (counts : left.Counts letter number)
      (countsToo : right.Counts letter other) (front back : List Char) :=
    @lastDigits_append_inj 2 number other (counts.lt valid) (countsToo.lt also) front back
  have hours (front back : List Char) :=
    @lastDigits_append_inj 2 hour other clock clockToo front back
  have thousandths (front back : List Char) :=
    @lastDigits_append_inj 3 _ _ left.millisecond_lt right.millisecond_lt front back
  -- Only the year has no length that is known, so that it is what the others leave of the text.
  unfold detail
  rw [List.append_eq_append_iff_of_size_eq_right (by simp [even]), String.toList_inj, repr_inj]
  simp only [List.cons.injEq, true_and, short .month .month, short .day .day, hours,
    short .minute .minute, short .second .second, thousandths, and_assoc]

/-- The hour and the half of the day on a clock of twelve hours tell the hour. -/
theorem halfDayHour_inj {hour other : Nat} (lt : hour < 24) (also : other < 24) :
    (if hour % 12 = 0 then 12 else hour % 12) = (if other % 12 = 0 then 12 else other % 12) ∧
        ((if hour < 12 then 'A' else 'P') = if other < 12 then 'A' else 'P') ↔
      hour = other := by
  -- Twelve hours and two halves make up the day.
  rw [letter_inj (by decide)]
  split_ifs <;> omega

/-- Dates and times down to the second are told by their fields. -/
theorem wholeSecond_eq_iff_fields : left.wholeSecond = right.wholeSecond ↔
    (left.year = right.year ∧ left.month = right.month ∧ left.day = right.day) ∧
      left.hour = right.hour ∧ left.minute = right.minute ∧ left.second = right.second := by
  -- Records are equal where their fields are, and the part of the second is cut on both sides.
  simp [wholeSecond, and_assoc]

end Civil

namespace Moment

variable {left right : Moment}

/-- Moments in zones of whole minutes are in one millisecond and equally far from universal time
where their clocks and their zones show the same. -/
theorem IsRegular.shown_iff (regular : left.IsRegular) (also : right.IsRegular) :
    left.offset = right.offset ∧ left.milliseconds = right.milliseconds ↔
      left.civil.wholeSecond = right.civil.wholeSecond ∧
        left.civil.millisecond = right.civil.millisecond ∧
        left.offset.tdiv 60 = right.offset.tdiv 60 := by
  rw [Civil.wholeSecond_eq_iff regular.valid.civil also.valid.civil]
  obtain ⟨-, ⟨minutes, far⟩, small⟩ := regular
  obtain ⟨-, ⟨minutesToo, farToo⟩, smallToo⟩ := also
  have sixty : (60 : Int) ≠ 0 := by decide
  rw [far, farToo, Int.mul_tdiv_cancel_left _ sixty, Int.mul_tdiv_cancel_left _ sixty]
  -- The whole milliseconds are a thousand for each second and those of the last one.
  simp only [milliseconds, instant, far, farToo, Civil.millisecond]
  omega

end Moment

section Format

/-- The pieces of a mask of all fields down to the millisecond, with a token for the hour. -/
def detailPieces (hour : List Char) : List MaskPiece :=
  [.token ['y', 'y', 'y', 'y'], .single '-', .token ['m', 'm'], .single '-', .token ['d', 'd'],
    .single ' ', .token hour, .single ':', .token ['M', 'M'], .single ':', .token ['s', 's'],
    .single '.', .token ['l']]

/-- A mask of all fields is written as they are, with other pieces behind it. -/
theorem write_detail {civil : Civil} (valid : civil.Valid) (zone : Zone) {letter : Char}
    {hour : Nat} (counts : civil.Counts letter hour) {token : List Char}
    (shown : writeToken civil zone token = shortNat true hour) (pieces : List MaskPiece) :
    (detailPieces token ++ pieces).flatMap (·.write civil zone) =
      civil.detail hour (pieces.flatMap (·.write civil zone)) := by
  have short {letter : Char} {number : Nat} (counts : civil.Counts letter number) :=
    shortNat_eq_lastDigits (counts.lt valid)
  -- Each token is written as its field, and the signs between them as they are.
  calc (detailPieces token ++ pieces).flatMap (·.write civil zone)
    _ = civil.year.repr.toList ++ '-' :: (shortNat true civil.month ++ '-' ::
        (shortNat true civil.day ++ ' ' :: (writeToken civil zone token ++ ':' ::
          (shortNat true civil.minute ++ ':' :: (shortNat true civil.second ++ '.' ::
            (Field.millisecond.write civil zone ++
              pieces.flatMap (·.write civil zone))))))) := rfl
    _ = civil.detail hour (pieces.flatMap (·.write civil zone)) := by
      rw [short .month, short .day, shown, short counts, short .minute, short .second,
        write_millisecond, Civil.detail]

variable {moment : Moment}

/-- A full mask on a clock of twenty-four hours shows all fields and the zone. -/
theorem format_detail (valid : moment.Valid) :
    (moment.format "yyyy-mm-dd HH:MM:ss.l o" false).toList =
      moment.civil.detail moment.civil.hour (' ' :: (moment.shownZone false).distance) := by
  have plain : IsPlainMask "yyyy-mm-dd HH:MM:ss.l o" := ⟨by decide, by decide, by decide⟩
  -- The mask is fixed, so that its scan can be computed.
  have pieces : maskPieces "yyyy-mm-dd HH:MM:ss.l o".toList =
      detailPieces ['H', 'H'] ++ [.single ' ', .token ['o']] := by cbv
  rw [format_plain plain, pieces, write_detail (valid.shown false) _ .hour rfl]
  simp only [List.flatMap_cons, List.flatMap_nil, List.append_nil]
  rfl

/-- A full mask on a clock of twelve hours shows the half of the day behind the other fields. -/
theorem format_detail_halfDay (valid : moment.Valid) :
    (moment.format "yyyy-mm-dd hh:MM:ss.l TT o" false).toList =
      moment.civil.detail (if moment.civil.hour % 12 = 0 then 12 else moment.civil.hour % 12)
        (' ' :: (if moment.civil.hour < 12 then 'A' else 'P') :: 'M' :: ' ' ::
          (moment.shownZone false).distance) := by
  have plain : IsPlainMask "yyyy-mm-dd hh:MM:ss.l TT o" := ⟨by decide, by decide, by decide⟩
  have pieces : maskPieces "yyyy-mm-dd hh:MM:ss.l TT o".toList =
      detailPieces ['h', 'h'] ++ [.single ' ', .token ['T', 'T'], .single ' ', .token ['o']] := by
    cbv
  -- The first pieces are those of every such mask, and the last four are written as they are.
  rw [format_plain plain, pieces,
    write_detail (valid.shown false) _ (moment.shown false).counts_halfDayHour rfl]
  simp only [List.flatMap_cons, List.flatMap_nil, List.append_nil]
  rfl

/-- A full mask loses nothing but the digits behind the millisecond.

Of moments that are in no leap second and in zones of whole minutes, two have the same text exactly
where they are in one millisecond and equally far from universal time, in whatever years they are
and whether the clock has twenty-four hours or twelve. -/
theorem format_full_mask {left right : Moment} (regular : left.IsRegular) (also : right.IsRegular)
    {mask : String} (full : mask ∈ ["yyyy-mm-dd HH:MM:ss.l o", "yyyy-mm-dd hh:MM:ss.l TT o"]) :
    left.format mask false = right.format mask false ↔
      left.offset = right.offset ∧ left.milliseconds = right.milliseconds := by
  have valid := regular.valid
  have validToo := also.valid
  -- The distance stands last in both masks, and is of the same length for every zone.
  have distance : (left.shownZone false).distance = (right.shownZone false).distance ↔
      left.offset.tdiv 60 = right.offset.tdiv 60 :=
    (valid.shownZone false).distance_inj (validToo.shownZone false)
  have even : (left.shownZone false).distance.length = (right.shownZone false).distance.length :=
    (valid.shownZone false).length_distance.trans (validToo.shownZone false).length_distance.symm
  rw [regular.shown_iff also, Civil.wholeSecond_eq_iff_fields, ← String.toList_inj]
  simp only [List.mem_cons, List.not_mem_nil, or_false] at full
  rcases full with rfl | rfl
  · rw [format_detail valid, format_detail validToo,
      Civil.detail_inj valid.civil validToo.civil (Civil.Counts.hour.lt valid.civil)
        (Civil.Counts.hour.lt validToo.civil) (by simp [even]),
      List.cons.injEq, distance]
    tauto
  · -- The half of the day is told behind the other fields.
    rw [format_detail_halfDay valid, format_detail_halfDay validToo,
      Civil.detail_inj valid.civil validToo.civil (left.civil.counts_halfDayHour.lt valid.civil)
        (right.civil.counts_halfDayHour.lt validToo.civil) (by simp [even]),
      ← Civil.halfDayHour_inj valid.civil.hour_lt validToo.civil.hour_lt]
    simp only [List.cons.injEq, distance]
    tauto

/-- Half an hour after midnight of a year before the first one: a part of a millisecond is lost, the
sign of half an hour from universal time is not. -/
theorem format_full_mask_zones :
    let west : Moment := ⟨⟨-44, 3, 15, 0, 30, 0, 123456789⟩, -1800⟩
    let near : Moment := ⟨⟨-44, 3, 15, 0, 30, 0, 123000000⟩, -1800⟩
    let east : Moment := ⟨⟨-44, 3, 15, 0, 30, 0, 123456789⟩, 1800⟩
    west.IsRegular ∧ near.IsRegular ∧ east.IsRegular ∧
      west.format "yyyy-mm-dd HH:MM:ss.l o" false = near.format "yyyy-mm-dd HH:MM:ss.l o" false ∧
      west.format "yyyy-mm-dd hh:MM:ss.l TT o" false ≠
        east.format "yyyy-mm-dd hh:MM:ss.l TT o" false := by
  intro west near east
  have regular : west.IsRegular := by decide
  have also : near.IsRegular := by decide
  have behind : east.IsRegular := by decide
  -- The two times of the first mask share their milliseconds, and the others differ in the zone.
  refine ⟨regular, also, behind, (format_full_mask regular also (by decide)).mpr (by decide), ?_⟩
  exact mt (format_full_mask regular behind (by decide)).mp (by decide)

end Format

end TextTemplate
