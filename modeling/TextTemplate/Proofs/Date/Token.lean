import Mathlib.Data.List.Forall2
import Mathlib.Tactic.IntervalCases
import TextTemplate.Proofs.Date.Scan
import TextTemplate.Proofs.Date.Universal
import TextTemplate.Proofs.Number.Digits

/-! A date is written as the pieces of its mask ask for. -/

namespace TextTemplate

/-- The days of the week. -/
def weekDays : List String :=
  ["Sunday", "Monday", "Tuesday", "Wednesday", "Thursday", "Friday", "Saturday"]

/-- The months of a year. -/
def calendarMonths : List String :=
  ["January", "February", "March", "April", "May", "June",
    "July", "August", "September", "October", "November", "December"]

/-- The numbers of a date that a letter stands for. -/
inductive Civil.Counts (civil : Civil) : Char → Nat → Prop where
  | day : Counts civil 'd' civil.day
  | month : Counts civil 'm' civil.month
  /-- A clock of twelve hours begins with the twelfth. -/
  | halfDayHour {hour : Nat} (pos : 1 ≤ hour) (le : hour ≤ 12)
    (same : hour % 12 = civil.hour % 12) : Counts civil 'h' hour
  | hour : Counts civil 'H' civil.hour
  | minute : Counts civil 'M' civil.minute
  | second : Counts civil 's' civil.second

/-- The place of a date in the week, counted from Sunday: the first day of 1970 was a Thursday. -/
structure Civil.IsWeekDay (civil : Civil) (place : Nat) : Prop where
  lt : place < 7
  counted : (7 : Int) ∣ civil.dayNumber - (place - 4)

/-- The half of the day, as a small letter. -/
def Civil.half (civil : Civil) : Char :=
  if civil.hour < 12 then 'a' else 'p'

/-- The distance of a zone from universal time, in hours and minutes. -/
inductive Zone.IsDistance : Zone → List Char → Prop where
  | utc : IsDistance .utc "+0000".toList
  | east {minutes : Int} {hours rest : Nat} (clock : rest < 60)
    (far : minutes = hours * 60 + rest) :
    IsDistance (.east minutes) ('+' :: (lastDigits 2 hours ++ lastDigits 2 rest))
  | west {minutes : Int} {hours rest : Nat} (clock : rest < 60) (away : minutes < 0)
    (far : minutes = -(hours * 60 + rest)) :
    IsDistance (.east minutes) ('-' :: (lastDigits 2 hours ++ lastDigits 2 rest))

/-- The ending of a day of a month as an ordinal number. -/
inductive IsOrdinalEnding : Nat → String → Prop where
  | first {day : Nat} (one : day ∈ [1, 21, 31]) : IsOrdinalEnding day "st"
  | second {day : Nat} (two : day ∈ [2, 22]) : IsOrdinalEnding day "nd"
  | third {day : Nat} (three : day ∈ [3, 23]) : IsOrdinalEnding day "rd"
  | other {day : Nat} (other : day ∉ [1, 21, 31, 2, 22, 3, 23]) : IsOrdinalEnding day "th"

/-- What the tokens are documented to stand for. -/
inductive IsDocumented (civil : Civil) (zone : Zone) : List Char → List Char → Prop where
  /-- A letter alone is a number without a leading zero. -/
  | short {letter : Char} {number : Nat} (counts : civil.Counts letter number) :
    IsDocumented civil zone [letter] (Nat.toDigits 10 number)
  /-- A letter twice is a number of two digits. -/
  | padded {letter : Char} {number : Nat} (counts : civil.Counts letter number) :
    IsDocumented civil zone [letter, letter] (lastDigits 2 number)
  | shortDayName {place : Nat} {name : String} (falls : civil.IsWeekDay place)
    (named : weekDays[place]? = some name) :
    IsDocumented civil zone ['d', 'd', 'd'] (name.toList.take 3)
  | dayName {place : Nat} {name : String} (falls : civil.IsWeekDay place)
    (named : weekDays[place]? = some name) :
    IsDocumented civil zone ['d', 'd', 'd', 'd'] name.toList
  | shortMonthName {name : String} (named : calendarMonths[civil.month - 1]? = some name) :
    IsDocumented civil zone ['m', 'm', 'm'] (name.toList.take 3)
  | monthName {name : String} (named : calendarMonths[civil.month - 1]? = some name) :
    IsDocumented civil zone ['m', 'm', 'm', 'm'] name.toList
  /-- The year without its century. -/
  | shortYear : IsDocumented civil zone ['y', 'y'] (lastDigits 2 (civil.year % 100).toNat)
  | year : IsDocumented civil zone ['y', 'y', 'y', 'y'] civil.year.repr.toList
  /-- A leap second stays in its last millisecond. -/
  | millisecond :
    IsDocumented civil zone ['l'] (lastDigits 3 (min (civil.nanosecond / 1000000) 999))
  /-- Hundredths of a second are full ones or the nearest. -/
  | centisecond {number : Nat} (small : number < 100)
    (near : number = civil.nanosecond / 10000000 ∨
      number = (civil.nanosecond + 5000000) / 10000000) :
    IsDocumented civil zone ['L'] (lastDigits 2 number)
  | half : IsDocumented civil zone ['t'] [civil.half]
  | halfDay : IsDocumented civil zone ['t', 't'] [civil.half, 'm']
  | halfUpper : IsDocumented civil zone ['T'] [civil.half.toUpper]
  | halfDayUpper : IsDocumented civil zone ['T', 'T'] [civil.half.toUpper, 'M']
  | utc (universal : zone = .utc) : IsDocumented civil zone ['Z'] "UTC".toList
  | zone {distance : List Char} (elsewhere : zone ≠ .utc) (far : zone.IsDistance distance) :
    IsDocumented civil zone ['Z'] ("GMT".toList ++ distance)
  | offset {distance : List Char} (far : zone.IsDistance distance) :
    IsDocumented civil zone ['o'] distance
  | ordinal {ending : String} (ends : IsOrdinalEnding civil.day ending) :
    IsDocumented civil zone ['S'] ending.toList

/-- What the tokens are written as.

They are written as they are documented, hundredths of a second and years of other than four digits
apart. -/
structure IsWritten (civil : Civil) (zone : Zone) (token text : List Char) : Prop where
  documented : token ≠ ['L'] → (token = ['y', 'y'] → 1000 ≤ civil.year ∧ civil.year < 10000) →
    IsDocumented civil zone token text
  /-- Less than a hundred milliseconds stay as they are, and others are rounded up to a hundred
  hundredths. -/
  centisecond : token = ['L'] →
    let milliseconds := min (civil.nanosecond / 1000000) 999
    text =
      if milliseconds < 100 then lastDigits 2 milliseconds
      else if milliseconds < 995 then lastDigits 2 ((milliseconds + 5) / 10)
      else ['1', '0', '0']

/-- A zone is less than a day away from universal time. -/
def Zone.Valid : Zone → Prop
  | .utc => True
  | .east minutes => minutes.natAbs < 1440

section Names

/-- The names of days are the short ones and then the full ones. -/
theorem dayNames_eq :
    dayNames = weekDays.map (fun name => .ofList (name.toList.take 3)) ++ weekDays := by
  decide

/-- The names of months are the short ones and then the full ones. -/
theorem monthNames_eq :
    monthNames =
      calendarMonths.map (fun name => .ofList (name.toList.take 3)) ++ calendarMonths := by
  decide

/-- A short name is found at its place, and a full one behind all the short ones. -/
theorem getD_names {names : List String} {place : Nat} {name : String}
    (named : names[place]? = some name) :
    ((names.map (fun name => String.ofList (name.toList.take 3)) ++ names).getD place "").toList =
        name.toList.take 3 ∧
      (names.map (fun name => String.ofList (name.toList.take 3)) ++ names).getD
        (place + names.length) "" = name := by
  obtain ⟨inside, rfl⟩ := List.getElem?_eq_some_iff.mp named
  -- The two rows are as long as each other.
  constructor
  · rw [List.getD_eq_getElem?_getD, List.getElem?_append_left (by simpa using inside),
      List.getElem?_map, named, Option.map_some, Option.getD_some, String.toList_ofList]
  · rw [List.getD_eq_getElem?_getD, List.getElem?_append_right (by simp), List.length_map,
      Nat.add_sub_cancel, named, Option.getD_some]

end Names

/-- A zone of less than a day is written with a sign and two digits each for hours and minutes. -/
theorem Zone.Valid.distance_eq {minutes : Int} (near : (Zone.east minutes).Valid) :
    (Zone.east minutes).distance = (if minutes < 0 then '-' else '+') ::
      (lastDigits 2 (minutes.natAbs / 60) ++ lastDigits 2 (minutes.natAbs % 60)) := by
  -- Less than a day has fewer than a hundred hours, and an hour fewer than a hundred minutes.
  simp only [Zone.Valid] at near
  have hours : minutes.natAbs / 60 < 100 := by omega
  have rest : minutes.natAbs % 60 < 100 := by omega
  rw [← paddedNat_eq_lastDigits (by decide) hours, ← paddedNat_eq_lastDigits (by decide) rest]
  rfl

/-- A zone is written with its distance from universal time. -/
theorem Zone.Valid.isDistance {zone : Zone} (valid : zone.Valid) :
    zone.IsDistance zone.distance := by
  cases zone with
  | utc => exact .utc
  -- The sign tells in which direction the hours and minutes count.
  | east minutes =>
    have clock : minutes.natAbs % 60 < 60 := Nat.mod_lt _ (by decide)
    rw [valid.distance_eq]
    split
    · exact .west clock ‹_› (by omega)
    · exact .east clock (by omega)

/-- Each day of a month has its ending. -/
theorem isOrdinalEnding_ordinalEnding {day : Nat} (pos : 1 ≤ day) (le : day ≤ 31) :
    IsOrdinalEnding day (ordinalEnding day) := by
  -- There are few enough days to look at each.
  interval_cases day
  all_goals first
    | exact .other (by decide)
    | exact .first (by decide)
    | exact .second (by decide)
    | exact .third (by decide)

section Written

variable {civil : Civil} {zone : Zone}

/-- The length of a month is at most 31 days. -/
theorem Civil.Valid.day_le (valid : civil.Valid) : civil.day ≤ 31 := by
  -- Every branch of the calendar is a number below 32.
  refine valid.date.day_le.trans ?_
  unfold lengthOfMonth
  split_ifs <;> decide

/-- The numbers of a date have at most two digits. -/
theorem Civil.Counts.lt {letter : Char} {number : Nat} (counts : civil.Counts letter number)
    (valid : civil.Valid) : number < 100 := by
  -- The calendar and the clock stay below a hundred.
  have day := valid.day_le
  have month := valid.date.month_le
  have hour := valid.hour_lt
  have minute := valid.minute_lt
  have second := valid.second_lt
  cases counts <;> omega

/-- A number below a hundred is written with two digits. -/
theorem shortNat_eq_lastDigits {number : Nat} (small : number < 100) :
    shortNat true number = lastDigits 2 number :=
  paddedNat_eq_lastDigits (by decide) small

/-- A number is written as its letter is documented. -/
theorem Civil.Counts.isDocumented {letter : Char} {number : Nat}
    (counts : civil.Counts letter number) (valid : civil.Valid) (padded : Bool) :
    IsDocumented civil zone (if padded then [letter, letter] else [letter])
      (shortNat padded number) := by
  cases padded with
  -- A number has at least one digit, so nothing is filled up.
  | false =>
    have plain : shortNat false number = Nat.toDigits 10 number := by
      have some : 0 < (Nat.toDigits 10 number).length := Nat.length_toDigits_pos
      have none : 1 - (Nat.toDigits 10 number).length = 0 := by omega
      simp [shortNat, paddedNat, none]
    rw [plain]
    exact .short counts
  | true =>
    rw [shortNat_eq_lastDigits (counts.lt valid)]
    exact .padded counts

/-- The hour of a clock of twelve hours is twelve where the other would be zero. -/
theorem Civil.counts_halfDayHour (civil : Civil) :
    civil.Counts 'h' (if civil.hour % 12 = 0 then 12 else civil.hour % 12) := by
  -- The rest of a division by twelve is below twelve, and zero is replaced.
  split
  · exact .halfDayHour (by decide) (by decide) (by omega)
  · exact .halfDayHour (by omega) (by omega) (by omega)

/-- The day of the week is written by its name. -/
theorem isDocumented_dayName (full : Bool) :
    IsDocumented civil zone (if full then ['d', 'd', 'd', 'd'] else ['d', 'd', 'd'])
      ((Field.dayName full).write civil zone) := by
  -- The weekday is the rest of the day number by seven, moved by the Thursday at its start.
  have falls : civil.IsWeekDay civil.weekday := by
    constructor
    all_goals
      simp only [Civil.weekday]
      omega
  have named := List.getElem?_eq_getElem (l := weekDays) falls.lt
  obtain ⟨short, long⟩ := getD_names named
  simp only [Field.write, dayNames_eq]
  cases full with
  | false => exact short ▸ .shortDayName falls named
  | true => exact (congrArg String.toList long) ▸ .dayName falls named

/-- The month is written by its name. -/
theorem isDocumented_monthName (valid : civil.Valid) (full : Bool) :
    IsDocumented civil zone (if full then ['m', 'm', 'm', 'm'] else ['m', 'm', 'm'])
      ((Field.monthName full).write civil zone) := by
  -- A valid month has a place among the twelve names.
  have month : civil.month - 1 < calendarMonths.length := by
    have := valid.date.month_le
    simp only [calendarMonths, List.length_cons, List.length_nil]
    omega
  have named := List.getElem?_eq_getElem month
  obtain ⟨short, long⟩ := getD_names named
  simp only [Field.write, monthNames_eq]
  cases full with
  | false => exact short ▸ .shortMonthName named
  | true => exact (congrArg String.toList long) ▸ .monthName named

/-- A year of four digits is written with them. -/
theorem Civil.year_repr (ge : 1000 ≤ civil.year) (lt : civil.year < 10000) :
    civil.year.repr.toList = lastDigits 4 civil.year.toNat := by
  -- Four digits are neither filled up nor cut.
  obtain ⟨year, known⟩ := Int.eq_ofNat_of_zero_le (Int.le_trans (by decide) ge)
  have least : 1000 ≤ year := by omega
  have most : year < 10000 := by omega
  rw [known]
  exact String.toList_ofList.trans (toDigits_eq_lastDigits least most)

/-- A year of four digits is written without its century. -/
theorem isDocumented_shortYear (ge : 1000 ≤ civil.year) (lt : civil.year < 10000) :
    IsDocumented civil zone ['y', 'y'] ((Field.year false).write civil zone) := by
  -- Of four digits the last two are left, which are those of the year in its century.
  have century : lastDigits 2 civil.year.toNat = lastDigits 2 (civil.year % 100).toNat := by
    have tens : (civil.year % 100).toNat / 10 % 10 = civil.year.toNat / 10 % 10 := by omega
    have ones : (civil.year % 100).toNat % 10 = civil.year.toNat % 10 := by omega
    simp only [lastDigits, tens, ones]
  have write : (Field.year false).write civil zone = lastDigits 2 civil.year.toNat :=
    congrArg (List.drop 2) (Civil.year_repr ge lt)
  rw [write, century]
  exact .shortYear

/-- A thousand milliseconds are never reached. -/
theorem Civil.millisecond_lt (civil : Civil) : civil.millisecond < 1000 :=
  Nat.lt_succ_of_le (Nat.min_le_right _ _)

/-- Milliseconds are written with three digits. -/
theorem write_millisecond (civil : Civil) (zone : Zone) :
    Field.millisecond.write civil zone = lastDigits 3 civil.millisecond :=
  paddedNat_eq_lastDigits (by decide) civil.millisecond_lt

/-- Milliseconds are written as they are documented. -/
theorem isDocumented_millisecond :
    IsDocumented civil zone ['l'] (Field.millisecond.write civil zone) := by
  rw [write_millisecond]
  exact .millisecond

/-- The half of the day is written with capitals. -/
theorem isDocumented_halfDayUpper (full : Bool) :
    IsDocumented civil zone (if full then ['T', 'T'] else ['T'])
      ((Field.halfDayUpper full).write civil zone) := by
  -- There are only two letters to put in capitals.
  have upper : civil.half.toUpper = if civil.hour < 12 then 'A' else 'P' := by
    unfold Civil.half
    split <;> rfl
  simp only [Field.write, ← upper]
  cases full with
  | false => exact .halfUpper
  | true => exact .halfDayUpper

/-- The zone is written as universal time or with its distance from it. -/
theorem Zone.Valid.isDocumented_zone (near : zone.Valid) :
    IsDocumented civil zone ['Z'] (Field.zone.write civil zone) := by
  cases zone with
  | utc => exact .utc rfl
  | east minutes => exact .zone (by nofun) near.isDistance

/-- A token that is not one of hundredths is written as it is documented, a short year only where
the year has four digits. -/
theorem IsToken.isDocumented {text : List Char} (token : IsToken text) (valid : civil.Valid)
    (near : zone.Valid) (other : text ≠ ['L'])
    (century : text = ['y', 'y'] → 1000 ≤ civil.year ∧ civil.year < 10000) :
    IsDocumented civil zone text (writeToken civil zone text) := by
  -- A letter and how often it is repeated fix the token.
  cases token with
  | @date c letter count pos le =>
    simp only [List.mem_cons, List.not_mem_nil, or_false] at letter
    rcases letter with rfl | rfl
    · interval_cases count
      · exact Civil.Counts.day.isDocumented valid false
      · exact Civil.Counts.day.isDocumented valid true
      · exact isDocumented_dayName false
      · exact isDocumented_dayName true
    · interval_cases count
      · exact Civil.Counts.month.isDocumented valid false
      · exact Civil.Counts.month.isDocumented valid true
      · exact isDocumented_monthName valid false
      · exact isDocumented_monthName valid true
  | year digits =>
    rcases digits with rfl | rfl
    · exact isDocumented_shortYear (century rfl).1 (century rfl).2
    · exact .year
  | @time c letter count pos le =>
    simp only [List.mem_cons, List.not_mem_nil, or_false] at letter
    rcases letter with rfl | rfl | rfl | rfl | rfl | rfl
    · interval_cases count
      · exact civil.counts_halfDayHour.isDocumented valid false
      · exact civil.counts_halfDayHour.isDocumented valid true
    · interval_cases count
      · exact Civil.Counts.hour.isDocumented valid false
      · exact Civil.Counts.hour.isDocumented valid true
    · interval_cases count
      · exact Civil.Counts.minute.isDocumented valid false
      · exact Civil.Counts.minute.isDocumented valid true
    · interval_cases count
      · exact Civil.Counts.second.isDocumented valid false
      · exact Civil.Counts.second.isDocumented valid true
    · interval_cases count
      · exact .half
      · exact .halfDay
    · interval_cases count
      · exact isDocumented_halfDayUpper false
      · exact isDocumented_halfDayUpper true
  | lone letter =>
    simp only [List.mem_cons, List.not_mem_nil, or_false] at letter
    rcases letter with rfl | rfl | rfl | rfl | rfl
    · exact isDocumented_millisecond
    · exact absurd rfl other
    · exact .offset near.isDistance
    · exact .ordinal (isOrdinalEnding_ordinalEnding valid.date.day_pos valid.day_le)
    · exact near.isDocumented_zone

/-- Hundredths are written as milliseconds or rounded. -/
theorem write_centisecond (zone : Zone) :
    Field.centisecond.write civil zone =
      if civil.millisecond < 100 then lastDigits 2 civil.millisecond
      else if civil.millisecond < 995 then lastDigits 2 ((civil.millisecond + 5) / 10)
      else ['1', '0', '0'] := by
  have most := civil.millisecond_lt
  simp only [Field.write]
  -- A number of two digits is kept, so that it is a count of milliseconds.
  by_cases small : civil.millisecond < 100
  · rw [if_pos small, if_neg (by omega), paddedNat_eq_lastDigits (by decide) small]
  · rw [if_neg small, if_pos (by omega)]
    by_cases below : civil.millisecond < 995
    · have nearest : (civil.millisecond + 5) / 10 < 100 := by omega
      rw [if_pos below, paddedNat_eq_lastDigits (by decide) nearest]
    · -- The last five milliseconds of a second are rounded up to a whole one.
      have carried : (civil.millisecond + 5) / 10 = 100 := by omega
      rw [if_neg below, carried]
      decide

/-- A token is written as it is documented, or else as what it differs by. -/
theorem IsToken.isWritten {text : List Char} (token : IsToken text) (valid : civil.Valid)
    (near : zone.Valid) : IsWritten civil zone text (writeToken civil zone text) := by
  -- All tokens but one are as documented, and that one is written by its own rule.
  refine ⟨token.isDocumented valid near, ?_⟩
  rintro rfl
  exact write_centisecond zone

end Written

/-- What a piece of a mask yields where tokens have a meaning.

A quotation yields its inside, and any other character itself. -/
def MaskPiece.Yields (meaning : List Char → List Char → Prop) : MaskPiece → List Char → Prop
  | .token name, text => meaning name text
  | .quotation _ inside, text => text = inside
  | .single c, text => text = [c]

/-- The date and time that is written, in universal time where that is asked for. -/
def Moment.shown (moment : Moment) (utc : Bool) : Civil :=
  if utc then moment.universal else moment.civil

/-- The zone that is written, in whole minutes. -/
def Moment.shownZone (moment : Moment) (utc : Bool) : Zone :=
  if utc then .utc else .east (moment.offset.tdiv 60)

/-- The date and time that is written is valid. -/
theorem Moment.Valid.shown {moment : Moment} (valid : moment.Valid) (utc : Bool) :
    (moment.shown utc).Valid := by
  cases utc with
  | false => exact valid.civil
  | true => exact valid.universal

/-- The zone that is written is valid. -/
theorem Moment.Valid.shownZone {moment : Moment} (valid : moment.Valid) (utc : Bool) :
    (moment.shownZone utc).Valid := by
  cases utc with
  | false =>
    have lt := valid.offset_lt
    -- Minutes are cut towards zero, so that less than a day stays less than one.
    have minutes : (moment.offset.tdiv 60).natAbs = moment.offset.natAbs / 60 :=
      Int.natAbs_tdiv _ _
    simp only [Moment.shownZone, Zone.Valid, Bool.false_eq_true, if_false, minutes]
    omega
  | true => trivial

/-- Every token names a field. -/
theorem IsToken.ofToken?_ne_none {text : List Char} (token : IsToken text) :
    Field.ofToken? text ≠ none := by
  -- A token is one of finitely many, each of which is in the table.
  cases token with
  | date letter pos le =>
    simp only [List.mem_cons, List.not_mem_nil, or_false] at letter
    rcases letter with rfl | rfl
    all_goals interval_cases ‹Nat› <;> decide
  | year digits => rcases digits with rfl | rfl <;> decide
  | time letter pos le =>
    simp only [List.mem_cons, List.not_mem_nil, or_false] at letter
    rcases letter with rfl | rfl | rfl | rfl | rfl | rfl
    all_goals interval_cases ‹Nat› <;> decide
  | lone letter =>
    simp only [List.mem_cons, List.not_mem_nil, or_false] at letter
    rcases letter with rfl | rfl | rfl | rfl | rfl <;> decide

/-- A piece is written as what it yields. -/
theorem MaskPiece.yields_write {civil : Civil} {zone : Zone} (valid : civil.Valid)
    (near : zone.Valid) {piece : MaskPiece} (token : ∀ text, piece = .token text → IsToken text) :
    piece.Yields (IsWritten civil zone) (piece.write civil zone) := by
  -- Only tokens have a meaning, and other pieces stand for themselves.
  cases piece with
  | token text => exact (token text rfl).isWritten valid near
  | quotation quote inside => rfl
  | single c => rfl

/-- A date is written piece by piece as a plain mask says. -/
theorem format_plain {mask : String} (plain : IsPlainMask mask) (moment : Moment) (utc : Bool) :
    (moment.format mask utc).toList =
      (maskPieces mask.toList).flatMap (·.write (moment.shown utc) (moment.shownZone utc)) := by
  -- The mask stands for itself, so that only the flag chooses the time and the zone.
  cases utc with
  | false =>
    simp only [Moment.format, plain.select, plain.split, Bool.or_self, Bool.false_eq_true,
      if_false, String.toList_ofList, Moment.shown, Moment.shownZone]
  | true =>
    simp only [Moment.format, plain.select, plain.split, Bool.true_or, if_true,
      String.toList_ofList, Moment.shown, Moment.shownZone]

/-- Dates are written as the scan of the mask asks for.

The pieces of a plain mask are its greedy scan, which is the only one and goes through the mask
piece by piece. Every token of it names a field, so that none is left as it is, and the text is what
the pieces yield, one behind the other. -/
theorem format_scan {moment : Moment} (valid : moment.Valid) {mask : String}
    (plain : IsPlainMask mask) (utc : Bool) :
    let pieces := maskPieces mask.toList
    (∀ scanned, GreedyScan mask.toList scanned ↔ scanned = pieces) ∧
      pieces.flatMap MaskPiece.source = mask.toList ∧
      (∀ text, .token text ∈ pieces → Field.ofToken? text ≠ none) ∧
      ∃ texts,
        List.Forall₂ (MaskPiece.Yields (IsWritten (moment.shown utc) (moment.shownZone utc)))
          pieces texts ∧
        (moment.format mask utc).toList = texts.flatten := by
  intro pieces
  -- What holds of every greedy scan holds of the pieces that are written.
  have scan : GreedyScan mask.toList pieces := maskPieces_scan _
  refine ⟨fun scanned => ⟨GreedyScan.eq_maskPieces, fun same => same ▸ scan⟩, scan.tiles,
    fun text member => (scan.isToken member).ofToken?_ne_none,
    pieces.map (·.write (moment.shown utc) (moment.shownZone utc)), ?_, ?_⟩
  · rw [List.forall₂_map_right_iff, List.forall₂_same]
    intro piece member
    refine MaskPiece.yields_write (valid.shown utc) (valid.shownZone utc) fun text same => ?_
    exact scan.isToken (same ▸ member)
  · rw [format_plain plain, List.flatMap_def]

/-- Runs that are longer than a token, a quoted letter and a quote that is not closed. -/
theorem format_scan_long_runs :
    let evening : Moment := ⟨⟨2026, 3, 1, 21, 4, 5, 996000000⟩, 7200⟩
    evening.Valid ∧ IsPlainMask "ddddd 'd' HHH yyy❤'L" ∧
      maskPieces "ddddd 'd' HHH yyy❤'L".toList =
        [.token ['d', 'd', 'd', 'd'], .token ['d'], .single ' ', .quotation '\x27' ['d'],
          .single ' ', .token ['H', 'H'], .token ['H'], .single ' ', .token ['y', 'y'],
          .single 'y', .single '❤', .single '\x27', .token ['L']] ∧
      evening.format "ddddd 'd' HHH yyy❤'L" false = "Sunday1 d 2121 26y❤'100" ∧
      ∃ texts,
        List.Forall₂
          (MaskPiece.Yields (IsWritten (evening.shown false) (evening.shownZone false)))
          (maskPieces "ddddd 'd' HHH yyy❤'L".toList) texts ∧
        "Sunday1 d 2121 26y❤'100".toList = texts.flatten := by
  intro evening
  have valid : evening.Valid := by
    refine ⟨⟨⟨by decide, by decide, by decide, by decide⟩, ?_, ?_, ?_, ?_⟩, ?_⟩ <;> decide
  have plain : IsPlainMask "ddddd 'd' HHH yyy❤'L" := ⟨by decide, by decide, by decide⟩
  -- Letters are left over behind the longest tokens, and the last quote is not closed.
  have pieces : maskPieces "ddddd 'd' HHH yyy❤'L".toList =
      [.token ['d', 'd', 'd', 'd'], .token ['d'], .single ' ', .quotation '\x27' ['d'],
        .single ' ', .token ['H', 'H'], .token ['H'], .single ' ', .token ['y', 'y'],
        .single 'y', .single '❤', .single '\x27', .token ['L']] := by cbv
  have written : evening.format "ddddd 'd' HHH yyy❤'L" false = "Sunday1 d 2121 26y❤'100" := by
    rw [← String.toList_inj, format_plain plain, pieces]
    decide
  obtain ⟨-, -, -, yielded⟩ := format_scan valid plain false
  rw [written] at yielded
  exact ⟨valid, plain, pieces, written, yielded⟩

/-- A date is written as a mask is documented: as what the pieces of its scan stand for. -/
def Moment.WritesDocumented (moment : Moment) (mask : String) (utc : Bool) : Prop :=
  ∃ pieces texts, GreedyScan mask.toList pieces ∧
    List.Forall₂ (MaskPiece.Yields (IsDocumented (moment.shown utc) (moment.shownZone utc)))
      pieces texts ∧
    (moment.format mask utc).toList = texts.flatten

/-- A mask of one token is written as documented only if the text is what the token stands for. -/
theorem Moment.WritesDocumented.token {moment : Moment} {mask : String} {utc : Bool}
    (documented : moment.WritesDocumented mask utc) {name : List Char}
    (alone : maskPieces mask.toList = [.token name]) :
    IsDocumented (moment.shown utc) (moment.shownZone utc) name
      (moment.format mask utc).toList := by
  obtain ⟨pieces, texts, scan, yielded, written⟩ := documented
  -- The scan has no other piece, so that there is one text.
  rw [scan.eq_maskPieces, alone] at yielded
  obtain ⟨text, others, stands, none, rfl⟩ := List.forall₂_cons_left_iff.mp yielded
  rw [List.forall₂_nil_left_iff] at none
  rw [written, none, List.flatten_singleton]
  exact stands

/-- Forty milliseconds are four hundredths and are written as forty, and a year of five digits
without its century keeps three of them. -/
theorem format_undocumented :
    let night : Moment := ⟨⟨2026, 1, 2, 0, 7, 3, 40000000⟩, 0⟩
    let future : Moment := ⟨⟨12345, 1, 2, 0, 7, 3, 0⟩, 0⟩
    (night.Valid ∧ IsPlainMask "L" ∧ ¬night.WritesDocumented "L" false) ∧
      future.Valid ∧ IsPlainMask "yy" ∧ ¬future.WritesDocumented "yy" false := by
  intro night future
  have plain : IsPlainMask "L" := ⟨by decide, by decide, by decide⟩
  have plainYear : IsPlainMask "yy" := ⟨by decide, by decide, by decide⟩
  refine ⟨⟨?_, plain, fun documented => ?_⟩, ?_, plainYear, fun documented => ?_⟩
  · refine ⟨⟨⟨by decide, by decide, by decide, by decide⟩, ?_, ?_, ?_, ?_⟩, ?_⟩ <;> decide
  · have alone : maskPieces "L".toList = [.token ['L']] := by cbv
    have written : (night.format "L" false).toList = ['4', '0'] := by
      rw [format_plain plain, alone]
      decide
    -- No meaning of the token is the text that is written.
    have stands := documented.token alone
    generalize (night.format "L" false).toList = text at written stands
    cases stands with
    | short counts => cases counts
    | centisecond small near =>
      have four : (night.shown false).nanosecond / 10000000 = 4 ∧
          ((night.shown false).nanosecond + 5000000) / 10000000 = 4 := by decide
      rw [four.1, four.2, or_self] at near
      rw [near] at written
      exact absurd written (by decide)
  · refine ⟨⟨⟨by decide, by decide, by decide, by decide⟩, ?_, ?_, ?_, ?_⟩, ?_⟩ <;> decide
  · have alone : maskPieces "yy".toList = [.token ['y', 'y']] := by cbv
    have written : (future.format "yy" false).toList = ['3', '4', '5'] := by
      rw [format_plain plainYear, alone]
      decide
    have stands := documented.token alone
    generalize (future.format "yy" false).toList = text at written stands
    cases stands with
    | padded counts => cases counts
    | shortYear => exact absurd written (by decide)

end TextTemplate
