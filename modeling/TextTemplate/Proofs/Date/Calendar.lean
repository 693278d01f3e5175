import Mathlib.Tactic.IntervalCases
import Mathlib.Tactic.SplitIfs
import TextTemplate.Date.Calendar

/-! Day numbers count the days of the Gregorian calendar, and each number is one of its dates. -/

namespace TextTemplate

/-- A year has a leap day every four years, but not at the end of three centuries out of four. -/
def IsLeapYear (year : Int) : Prop :=
  year % 4 = 0 ∧ (year % 100 ≠ 0 ∨ year % 400 = 0)

instance (year : Int) : Decidable (IsLeapYear year) :=
  inferInstanceAs (Decidable (_ ∧ _))

/-- The number of days of a month. -/
def lengthOfMonth (year : Int) (month : Nat) : Nat :=
  if month = 2 then if IsLeapYear year then 29 else 28
  else if month = 4 ∨ month = 6 ∨ month = 9 ∨ month = 11 then 30
  else 31

/-- A year, a month and a day are a date of the calendar. -/
structure IsDate (year : Int) (month day : Nat) : Prop where
  month_pos : 1 ≤ month
  month_le : month ≤ 12
  day_pos : 1 ≤ day
  day_le : day ≤ lengthOfMonth year month

instance (year : Int) (month day : Nat) : Decidable (IsDate year month day) :=
  decidable_of_iff (1 ≤ month ∧ month ≤ 12 ∧ 1 ≤ day ∧ day ≤ lengthOfMonth year month)
    ⟨fun all => ⟨all.1, all.2.1, all.2.2.1, all.2.2.2⟩,
      fun date => ⟨date.month_pos, date.month_le, date.day_pos, date.day_le⟩⟩

/-- The date behind another. -/
def nextDay (year : Int) (month day : Nat) : Int × Nat × Nat :=
  if day < lengthOfMonth year month then (year, month, day + 1)
  else if month < 12 then (year, month + 1, 1)
  else (year + 1, 1, 1)

/-- A date of a calendar is numbered from 1 January 1970, with one more for each day. -/
theorem dayNumber_nextDay {year : Int} {month day : Nat} (date : IsDate year month day) :
    dayNumber 1970 1 1 = 0 ∧
      dayNumber (nextDay year month day).1 (nextDay year month day).2.1
        (nextDay year month day).2.2 = dayNumber year month day + 1 := by
  refine ⟨by decide, ?_⟩
  obtain ⟨month_pos, month_le, day_pos, day_le⟩ := date
  unfold nextDay
  split_ifs with within before
  · -- Within a month only the day changes.
    simp only [dayNumber]
    omega
  · -- The day is the last of its month, whose length is known for each month.
    obtain rfl : day = lengthOfMonth year month := by omega
    by_cases leap : IsLeapYear year
    all_goals
      simp only [dayNumber, lengthOfMonth, leap, if_true, if_false]
      simp only [IsLeapYear] at leap
      interval_cases month <;> simp <;> omega
  -- The last day of December is followed by the new year.
  · obtain rfl : day = lengthOfMonth year month := by omega
    obtain rfl : month = 12 := by omega
    simp [dayNumber, lengthOfMonth]
    omega

/-- A day of a period of 400 years that begins in March.

The period has four centuries, a century 25 cycles of four years, and the leap day ends a cycle. -/
structure EraDay where
  century : Nat
  cycle : Nat
  year : Nat
  /-- The day of the year, counted from zero. -/
  day : Nat
  century_le : century ≤ 3
  cycle_le : cycle ≤ 24
  year_le : year ≤ 3
  day_le : day ≤ 365
  leap : day = 365 → year = 3 ∧ (cycle < 24 ∨ century = 3)

namespace EraDay

/-- The days of the period before a day. -/
def number (place : EraDay) : Nat :=
  36524 * place.century + 1461 * place.cycle + 365 * place.year + place.day

/-- The years of the period before the year of a day. -/
def yearOfEra (place : EraDay) : Nat :=
  100 * place.century + 4 * place.cycle + place.year

/-- Each of the days of 400 years has its place. -/
theorem exists_number {number : Nat} (inside : number < 146097) :
    ∃ place : EraDay, place.number = number := by
  let century := min (number / 36524) 3
  let inCentury := number - 36524 * century
  let year := min (inCentury % 1461 / 365) 3
  -- The last century and the last year of a cycle may be one day longer.
  refine ⟨⟨century, inCentury / 1461, year, inCentury % 1461 - 365 * year, ?_, ?_, ?_, ?_, ?_⟩, ?_⟩
  all_goals simp only [EraDay.number, century, inCentury, year]
  all_goals omega

variable (place : EraDay)

/-- A day lies in the period. -/
theorem number_lt : place.number < 146097 := by
  obtain ⟨century, cycle, year, day, century_le, cycle_le, year_le, day_le, leap⟩ := place
  simp only [number]
  omega

/-- The years before the year of a day have their number of days. -/
theorem number_eq :
    place.number = 365 * place.yearOfEra + place.yearOfEra / 4 - place.yearOfEra / 100 +
      place.day := by
  obtain ⟨century, cycle, year, day, century_le, cycle_le, year_le, day_le, leap⟩ := place
  simp only [number, yearOfEra]
  -- A leap day is counted for each cycle, but for no century.
  have cycles : (100 * century + 4 * cycle + year) / 4 = 25 * century + cycle := by omega
  have centuries : (100 * century + 4 * cycle + year) / 100 = century := by omega
  rw [cycles, centuries]
  omega

/-- The year of a day is found by leaving out the leap days before it. -/
theorem year_of_number :
    (place.number - place.number / 1460 + place.number / 36524 - place.number / 146096) / 365 =
      place.yearOfEra := by
  obtain ⟨century, cycle, year, day, century_le, cycle_le, year_le, day_le, leap⟩ := place
  simp only [number, yearOfEra]
  generalize same : 36524 * century + 1461 * cycle + 365 * year + day = number
  -- Only the last days of a cycle and the very last day count their own leap day.
  have last : number / 146096 = if century = 3 ∧ cycle = 24 ∧ day = 365 then 1 else 0 := by
    split_ifs <;> omega
  have centuries : number / 36524 = century + number / 146096 := by
    rw [last]
    split_ifs <;> omega
  have cycles : number / 1460 = 25 * century + cycle +
      if 1460 ≤ 24 * century + cycle + 365 * year + day then 1 else 0 := by
    split_ifs <;> omega
  rw [centuries, cycles]
  -- What the very last day counts too much is taken off again.
  clear last centuries cycles
  generalize number / 146096 = more
  split_ifs <;> omega

/-- The years of a period are less than 400. -/
theorem yearOfEra_lt : place.yearOfEra < 400 := by
  obtain ⟨century, cycle, year, day, century_le, cycle_le, year_le, day_le, leap⟩ := place
  simp only [yearOfEra]
  omega

/-- A year of a period with a day more than others ends in a leap year. -/
theorem isLeapYear_of_day (era : Int) (last : place.day = 365) :
    IsLeapYear (era * 400 + place.yearOfEra + 1) := by
  -- Only a year with a leap day has that many days behind the first of March.
  obtain ⟨century, cycle, year, day, century_le, cycle_le, year_le, day_le, leap⟩ := place
  obtain ⟨rfl, shorter⟩ := leap last
  simp only [IsLeapYear, yearOfEra]
  omega

/-- The number of a day of a period that begins some periods behind that of the year 0. -/
def dayNumber (era : Int) : Int :=
  era * 146097 + place.number - epochDay

/-- Each day number is that of a day of a period. -/
theorem exists_dayNumber (number : Int) :
    ∃ (era : Int) (place : EraDay), place.dayNumber era = number := by
  -- The period and the day are quotient and rest by the length of a period.
  have inside : ((number + epochDay) % 146097).toNat < 146097 := by omega
  obtain ⟨place, same⟩ := exists_number inside
  refine ⟨(number + epochDay) / 146097, place, ?_⟩
  rw [dayNumber, same]
  omega

/-- The date of a day of a period is known from its year and from its day in that year. -/
theorem civilDay_dayNumber (era : Int) :
    civilDay (place.dayNumber era) =
      let monthFromMarch := (5 * place.day + 2) / 153
      let month := if monthFromMarch < 10 then monthFromMarch + 3 else monthFromMarch - 9
      let year := era * 400 + place.yearOfEra
      (if month ≤ 2 then year + 1 else year, month,
        place.day - (153 * monthFromMarch + 2) / 5 + 1) := by
  have inside := place.number_lt
  -- The number is divided by the length of a period, and the rest is the place in it.
  have period : (place.dayNumber era + epochDay) / 146097 = era := by
    simp only [dayNumber]
    omega
  have rest : ((place.dayNumber era + epochDay) % 146097).toNat = place.number := by
    simp only [dayNumber]
    omega
  have days : place.number -
      (365 * place.yearOfEra + place.yearOfEra / 4 - place.yearOfEra / 100) = place.day := by
    rw [place.number_eq]
    omega
  simp only [civilDay, period, rest, place.year_of_number, days]

end EraDay

/-- The days of whole periods and of years in the next one are those of the years together. -/
theorem days_of_years (era : Int) {year : Nat} (inside : year < 400) :
    365 * (era * 400 + year) + (era * 400 + year) / 4 - (era * 400 + year) / 100 +
      (era * 400 + year) / 400 = era * 146097 + (365 * year + year / 4 - year / 100 : Nat) := by
  -- A period has 97 leap days, one for each of its four-year cycles less three.
  omega

/-- The number of the date of a day number is that number. -/
theorem dayNumber_civilDay (number : Int) :
    dayNumber (civilDay number).1 (civilDay number).2.1 (civilDay number).2.2 = number := by
  obtain ⟨era, place, rfl⟩ := EraDay.exists_dayNumber number
  have years := days_of_years era place.yearOfEra_lt
  have day := place.day_le
  rw [place.civilDay_dayNumber]
  simp only [dayNumber, EraDay.dayNumber, place.number_eq]
  generalize months : (5 * place.day + 2) / 153 = monthFromMarch
  -- January and February belong to the year that began in March before.
  by_cases before : monthFromMarch < 10
  · have month : (monthFromMarch + 3 + 9) % 12 = monthFromMarch := by omega
    rw [if_pos before, if_neg (by omega : ¬monthFromMarch + 3 ≤ 2), if_neg (by omega), month, years]
    omega
  · have month : (monthFromMarch - 9 + 9) % 12 = monthFromMarch := by omega
    rw [if_neg before, if_pos (by omega), if_pos (by omega), month, Int.add_sub_cancel, years]
    omega

/-- A day number has a date of the calendar. -/
theorem isDate_civilDay (number : Int) :
    IsDate (civilDay number).1 (civilDay number).2.1 (civilDay number).2.2 := by
  obtain ⟨era, place, rfl⟩ := EraDay.exists_dayNumber number
  have inside := place.day_le
  have leap := place.isLeapYear_of_day era
  rw [place.civilDay_dayNumber]
  generalize place.day = day at *
  generalize era * 400 + (place.yearOfEra : Int) = year at *
  have months : (5 * day + 2) / 153 ≤ 11 := by omega
  generalize same : (5 * day + 2) / 153 = monthFromMarch at *
  -- Each month from March to January is filled, and February by the leap day.
  interval_cases monthFromMarch
  all_goals
    refine ⟨by simp, by simp, by simp, ?_⟩
    simp [lengthOfMonth]
  all_goals try omega
  by_cases last : day = 365
  · rw [if_pos (leap last)]
    omega
  · split_ifs <;> omega

/-- The days since March tell the month of a date, and only a leap day is the 366th of them. -/
theorem IsDate.sinceMarch {year : Int} {month day : Nat} (date : IsDate year month day) :
    let dayOfYear := (153 * ((month + 9) % 12) + 2) / 5 + day - 1
    dayOfYear ≤ 365 ∧ (dayOfYear = 365 → month = 2 ∧ IsLeapYear year) ∧
      (5 * dayOfYear + 2) / 153 = (month + 9) % 12 := by
  -- The lengths of the months from March on repeat every five months.
  obtain ⟨month_pos, month_le, day_pos, day_le⟩ := date
  intro dayOfYear
  by_cases leap : IsLeapYear year
  all_goals
    simp only [lengthOfMonth, leap, if_true, if_false] at day_le
    simp only [leap, and_true, and_false, dayOfYear]
    interval_cases month <;> simp at day_le <;> omega

/-- A date of the calendar is the date of its day number. -/
theorem civilDay_dayNumber {year : Int} {month day : Nat} (date : IsDate year month day) :
    civilDay (dayNumber year month day) = (year, month, day) := by
  obtain ⟨inside, leap, monthFromMarch⟩ := date.sinceMarch
  generalize days : (153 * ((month + 9) % 12) + 2) / 5 + day - 1 = dayOfYear at *
  obtain ⟨marchYear, march⟩ : ∃ marchYear, marchYear = if month ≤ 2 then year - 1 else year :=
    ⟨_, rfl⟩
  obtain ⟨yearOfEra, era, within, same⟩ :
      ∃ (yearOfEra : Nat) (era : Int), yearOfEra < 400 ∧ marchYear = era * 400 + yearOfEra :=
    ⟨(marchYear % 400).toNat, marchYear / 400, by omega, by omega⟩
  -- The date has a place in the period of its year.
  have ends : dayOfYear = 365 → yearOfEra % 4 = 3 ∧
      (yearOfEra % 100 / 4 < 24 ∨ yearOfEra / 100 = 3) := by
    intro last
    obtain ⟨rfl, leapYear⟩ := leap last
    simp only [IsLeapYear] at leapYear
    simp only [Nat.le_refl, if_true] at march
    omega
  let place : EraDay := ⟨yearOfEra / 100, yearOfEra % 100 / 4, yearOfEra % 4, dayOfYear,
    by omega, by omega, by omega, inside, ends⟩
  have placed : place.yearOfEra = yearOfEra := by
    simp only [EraDay.yearOfEra, place]
    omega
  have number : dayNumber year month day = place.dayNumber era := by
    have years := days_of_years era within
    have placedDay : place.day = dayOfYear := rfl
    simp only [dayNumber, days, ← march, EraDay.dayNumber, place.number_eq, placed, placedDay]
    rw [same, years]
    omega
  have month_pos := date.month_pos
  have month_le := date.month_le
  have day_pos := date.day_pos
  rw [number, place.civilDay_dayNumber, placed, ← same]
  simp only [place, monthFromMarch]
  -- January and February belong to the year that began in March before.
  by_cases early : month ≤ 2
  · rw [if_pos early] at march
    have month : (if (month + 9) % 12 < 10 then (month + 9) % 12 + 3 else (month + 9) % 12 - 9) =
        month := by
      rw [if_neg (by omega)]
      omega
    rw [month, if_pos early]
    simp only [Prod.mk.injEq, true_and]
    omega
  · rw [if_neg early] at march
    have month : (if (month + 9) % 12 < 10 then (month + 9) % 12 + 3 else (month + 9) % 12 - 9) =
        month := by
      rw [if_pos (by omega)]
      omega
    rw [month, if_neg early]
    simp only [Prod.mk.injEq, true_and]
    omega

end TextTemplate
