/-! Civil dates and times are counted in seconds to move them between time zones. -/

namespace TextTemplate

/-- A date of the Gregorian calendar and a time of day.

A nanosecond of 10 ^ 9 or more belongs to a leap second behind the second it is written with. -/
structure Civil where
  year : Int
  month : Nat
  day : Nat
  hour : Nat
  minute : Nat
  second : Nat
  nanosecond : Nat
  deriving DecidableEq, Repr

/-- The number of days from 1 March of the year 0 to 1 January 1970. -/
def epochDay : Int := 719468

/-- The number of a day, counted from 1 January 1970. -/
def dayNumber (year : Int) (month day : Nat) : Int :=
  -- A year that begins in March has its leap day at its end.
  let year := if month ≤ 2 then year - 1 else year
  let dayOfYear := (153 * ((month + 9) % 12) + 2) / 5 + day - 1
  365 * year + year / 4 - year / 100 + year / 400 + dayOfYear - epochDay

/-- The year, month and day of a day number. -/
def civilDay (number : Int) : Int × Nat × Nat :=
  -- The calendar repeats every 400 years.
  let shifted := number + epochDay
  let era := shifted / 146097
  let dayOfEra := (shifted % 146097).toNat
  let yearOfEra := (dayOfEra - dayOfEra / 1460 + dayOfEra / 36524 - dayOfEra / 146096) / 365
  let dayOfYear := dayOfEra - (365 * yearOfEra + yearOfEra / 4 - yearOfEra / 100)
  let monthFromMarch := (5 * dayOfYear + 2) / 153
  let day := dayOfYear - (153 * monthFromMarch + 2) / 5 + 1
  let month := if monthFromMarch < 10 then monthFromMarch + 3 else monthFromMarch - 9
  let year := era * 400 + yearOfEra
  (if month ≤ 2 then year + 1 else year, month, day)

namespace Civil

/-- The number of the day, counted from 1 January 1970. -/
def dayNumber (civil : Civil) : Int :=
  TextTemplate.dayNumber civil.year civil.month civil.day

/-- The day of the week, counted from Sunday. -/
def weekday (civil : Civil) : Nat :=
  -- The first day of 1970 was a Thursday.
  ((civil.dayNumber + 4) % 7).toNat

/-- The seconds since the start of 1970 on the same clock. -/
def seconds (civil : Civil) : Int :=
  civil.dayNumber * 86400 + civil.hour * 3600 + civil.minute * 60 + civil.second

/-- The date and time after a number of seconds since the start of 1970. -/
def ofSeconds (seconds : Int) (nanosecond : Nat) : Civil :=
  let (year, month, day) := civilDay (seconds / 86400)
  let clock := (seconds % 86400).toNat
  { year, month, day
    hour := clock / 3600
    minute := clock / 60 % 60
    second := clock % 60
    nanosecond }

end Civil

/-- A date and time in a zone that lies some seconds east of universal time. -/
structure Moment where
  civil : Civil
  offset : Int
  deriving DecidableEq, Repr

namespace Moment

/-- The seconds of universal time since the start of 1970. -/
def instant (moment : Moment) : Int :=
  moment.civil.seconds - moment.offset

/-- The date and time of a moment in universal time. -/
def universal (moment : Moment) : Civil :=
  .ofSeconds moment.instant moment.civil.nanosecond

/-- The same moment in the zone of universal time. -/
def inUtc (moment : Moment) : Moment :=
  ⟨moment.universal, 0⟩

end Moment

end TextTemplate
