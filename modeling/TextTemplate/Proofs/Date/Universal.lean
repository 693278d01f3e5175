import TextTemplate.Date.Format
import TextTemplate.Proofs.Date.Calendar

/-! A date that is written in universal time depends on its instant alone, not on its zone. -/

namespace TextTemplate

/-- A date and a time of day, where a leap second counts on from the second before it. -/
structure Civil.Valid (civil : Civil) : Prop where
  date : IsDate civil.year civil.month civil.day
  hour_lt : civil.hour < 24
  minute_lt : civil.minute < 60
  second_lt : civil.second < 60
  nanosecond_lt : civil.nanosecond < 2 * 1000000000

/-- A date and time in a zone that is less than a day away from universal time. -/
structure Moment.Valid (moment : Moment) : Prop where
  civil : moment.civil.Valid
  offset_lt : moment.offset.natAbs < 86400

instance (civil : Civil) : Decidable civil.Valid :=
  decidable_of_iff (IsDate civil.year civil.month civil.day ∧ civil.hour < 24 ∧
      civil.minute < 60 ∧ civil.second < 60 ∧ civil.nanosecond < 2 * 1000000000)
    ⟨fun all => ⟨all.1, all.2.1, all.2.2.1, all.2.2.2.1, all.2.2.2.2⟩,
      fun valid => ⟨valid.date, valid.hour_lt, valid.minute_lt, valid.second_lt,
        valid.nanosecond_lt⟩⟩

instance (moment : Moment) : Decidable moment.Valid :=
  decidable_of_iff (moment.civil.Valid ∧ moment.offset.natAbs < 86400)
    ⟨fun all => ⟨all.1, all.2⟩, fun valid => ⟨valid.civil, valid.offset_lt⟩⟩

/-- Two moments are one instant: they are the same second of universal time, which is the local
time less the offset, and the same part of it. -/
structure Moment.SameInstant (left right : Moment) : Prop where
  second : left.civil.seconds - left.offset = right.civil.seconds - right.offset
  nanosecond : left.civil.nanosecond = right.civil.nanosecond

/-- A mask that stands for itself: it is some text, no name of a mask, and not marked as being for
universal time. -/
structure IsPlainMask (mask : String) : Prop where
  nonempty : mask ≠ ""
  unnamed : namedMask? mask = none
  unmarked : ¬['U', 'T', 'C', ':'] <+: mask.toList

namespace Civil

/-- The date and time after some seconds is that many seconds after the start of 1970. -/
theorem seconds_ofSeconds (seconds : Int) (nanosecond : Nat) :
    (ofSeconds seconds nanosecond).seconds = seconds := by
  have days := dayNumber_civilDay (seconds / 86400)
  -- The days and the seconds of the day make up the seconds.
  simp only [Civil.seconds, Civil.dayNumber, ofSeconds, days]
  omega

/-- The date and time after some seconds is one of the calendar and of a clock. -/
theorem valid_ofSeconds {nanosecond : Nat} (small : nanosecond < 2 * 1000000000) (seconds : Int) :
    (ofSeconds seconds nanosecond).Valid := by
  -- The clock shows the rest of the day, and the calendar takes the days before it.
  refine ⟨isDate_civilDay _, ?_, ?_, ?_, small⟩
  all_goals
    simp only [ofSeconds]
    omega

/-- A date and time is the one after its own seconds. -/
theorem Valid.ofSeconds_seconds {civil : Civil} (valid : civil.Valid) :
    ofSeconds civil.seconds civil.nanosecond = civil := by
  obtain ⟨date, hour_lt, minute_lt, second_lt, -⟩ := valid
  -- The clock stays below a day, so that both are told apart again.
  have day : civil.seconds / 86400 = civil.dayNumber := by
    simp only [Civil.seconds]
    omega
  have clock : (civil.seconds % 86400).toNat =
      civil.hour * 3600 + civil.minute * 60 + civil.second := by
    simp only [Civil.seconds]
    omega
  have hour : (civil.hour * 3600 + civil.minute * 60 + civil.second) / 3600 = civil.hour := by
    omega
  have minute : (civil.hour * 3600 + civil.minute * 60 + civil.second) / 60 % 60 =
      civil.minute := by
    omega
  have second : (civil.hour * 3600 + civil.minute * 60 + civil.second) % 60 = civil.second := by
    omega
  simp only [ofSeconds, day, clock, Civil.dayNumber, civilDay_dayNumber date, hour, minute, second]

end Civil

namespace Moment

/-- The universal time of a valid moment is valid. -/
theorem Valid.universal {moment : Moment} (valid : moment.Valid) : moment.universal.Valid :=
  Civil.valid_ofSeconds valid.civil.nanosecond_lt _

/-- One instant has one universal time. -/
theorem SameInstant.universal_eq {left right : Moment} (same : left.SameInstant right) :
    left.universal = right.universal := by
  -- The zone only enters the instant.
  rw [Moment.universal, Moment.universal, instant, instant, same.second, same.nanosecond]

/-- A moment is the same instant in the zone of universal time. -/
theorem sameInstant_inUtc (moment : Moment) : moment.inUtc.SameInstant moment := by
  -- The distance of universal time from itself is none.
  refine ⟨?_, rfl⟩
  rw [inUtc, Int.sub_zero, Moment.universal, Civil.seconds_ofSeconds, instant]

end Moment

/-- Only texts that begin otherwise are names of masks. -/
theorem namedMask?_marked {mask : String} (marked : ['U', 'T', 'C', ':'] <+: mask.toList) :
    namedMask? mask = none := by
  -- No name of a mask begins with a capital letter.
  have other : ∀ pair ∈ namedMasks, pair.1.toList.head? ≠ some 'U' := by decide
  refine List.lookup_eq_none_iff.mpr fun pair member => ?_
  obtain ⟨rest, whole⟩ := marked
  rw [bne_iff_ne]
  rintro rfl
  exact other pair member (by rw [← whole]; rfl)

namespace IsPlainMask

variable {mask : String}

/-- A plain mask is selected as it is. -/
theorem select (plain : IsPlainMask mask) : selectMask mask = mask.toList := by
  -- It is neither empty nor a name.
  rw [selectMask, if_neg plain.nonempty, plain.unnamed, Option.getD_none]

/-- A plain mask has no sign to be split off. -/
theorem split (plain : IsPlainMask mask) : splitUtc mask.toList = (false, mask.toList) := by
  -- A plain mask has no mark in front.
  unfold splitUtc
  split
  · rename_i rest whole
    exact absurd ⟨rest, whole.symm⟩ plain.unmarked
  · rfl

/-- A mask that is marked as being for universal time is selected as it is, and its sign split
off. -/
theorem split_marked (mask : String) :
    splitUtc (selectMask ("UTC:" ++ mask)) = (true, mask.toList) := by
  have whole : ("UTC:" ++ mask).toList = 'U' :: 'T' :: 'C' :: ':' :: mask.toList := by
    rw [String.toList_append]
    rfl
  -- No name begins with the mark, and a marked mask is not empty.
  have unnamed : namedMask? ("UTC:" ++ mask) = none :=
    namedMask?_marked ⟨mask.toList, by rw [whole]; rfl⟩
  have nonempty : "UTC:" ++ mask ≠ "" := by
    intro empty
    rw [empty] at whole
    cases whole
  rw [selectMask, if_neg nonempty, unnamed, Option.getD_none, whole]
  rfl

end IsPlainMask

/-- Written for universal time, a date depends on its instant alone.

Moments of one instant in any two zones are written alike, and also as the zone of universal time
has them. A sign in the mask asks for universal time as the flag does. -/
theorem format_universal {left right : Moment} (same : left.SameInstant right) (mask : String) :
    left.format mask true = right.format mask true ∧
      left.formatUtc mask = left.format mask true ∧
      right.formatUtc mask = left.format mask true ∧
      (IsPlainMask mask → ∀ utc, left.format ("UTC:" ++ mask) utc = left.format mask true) := by
  -- Only the universal time is read where the flag is set.
  have read : ∀ {moment other : Moment}, moment.SameInstant other →
      moment.format mask true = other.format mask true := by
    intro moment other same
    simp only [Moment.format, Bool.true_or, if_true, same.universal_eq]
  refine ⟨read same, read left.sameInstant_inUtc, ?_, ?_⟩
  · exact (read right.sameInstant_inUtc).trans (read same).symm
  · intro plain utc
    simp only [Moment.format, IsPlainMask.split_marked, plain.select, plain.split, Bool.or_true,
      Bool.true_or, if_true]

/-- Eleven at night five hours west of universal time is four in the morning of the next day. -/
theorem format_universal_next_day :
    let evening : Moment := ⟨⟨2026, 12, 31, 23, 0, 0, 500000000⟩, -18000⟩
    let morning : Moment := ⟨⟨2027, 1, 1, 9, 30, 0, 500000000⟩, 19800⟩
    evening.SameInstant morning ∧ IsPlainMask "yyyy-mm-dd HH:MM Z o" ∧
      evening.format "yyyy-mm-dd HH:MM Z o" true = morning.format "yyyy-mm-dd HH:MM Z o" true ∧
      morning.formatUtc "yyyy-mm-dd HH:MM Z o" = "2027-01-01 04:00 UTC +0000" ∧
      evening.format "UTC:yyyy-mm-dd HH:MM Z o" false = "2027-01-01 04:00 UTC +0000" := by
  intro evening morning
  have same : evening.SameInstant morning := ⟨by decide, rfl⟩
  have plain : IsPlainMask "yyyy-mm-dd HH:MM Z o" := ⟨by decide, by decide, by decide⟩
  obtain ⟨alike, -, zone, marked⟩ := format_universal same "yyyy-mm-dd HH:MM Z o"
  have pieces : maskPieces "yyyy-mm-dd HH:MM Z o".toList =
      [.token ['y', 'y', 'y', 'y'], .single '-', .token ['m', 'm'], .single '-', .token ['d', 'd'],
        .single ' ', .token ['H', 'H'], .single ':', .token ['M', 'M'], .single ' ', .token ['Z'],
        .single ' ', .token ['o']] := by cbv
  -- In universal time the next year has begun.
  have universal : evening.universal = ⟨2027, 1, 1, 4, 0, 0, 500000000⟩ := by decide
  have written : evening.format "yyyy-mm-dd HH:MM Z o" true = "2027-01-01 04:00 UTC +0000" := by
    simp only [Moment.format, plain.select, plain.split, Bool.true_or, if_true, universal, pieces]
    decide
  exact ⟨same, plain, alike, zone.trans written, (marked plain false).trans written⟩

end TextTemplate
