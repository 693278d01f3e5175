import TextTemplate.Date.Calendar
import TextTemplate.Date.Mask
import TextTemplate.Number.Padded

/-! Dates are written piece by piece as a mask says. -/

namespace TextTemplate

/-- The zone that a date is written for. -/
inductive Zone where
  | utc
  /-- A zone some minutes east of universal time. -/
  | east (minutes : Int)
  deriving DecidableEq, Repr

/-- A whole number as one digit or more, or as two or more. -/
def shortNat (padded : Bool) (n : Nat) : List Char :=
  paddedNat (if padded then 2 else 1) n

/-- The distance of a zone from universal time in hours and minutes. -/
def Zone.distance (zone : Zone) : List Char :=
  let minutes := match zone with
    | .utc => 0
    | .east minutes => minutes
  (if minutes < 0 then '-' else '+') ::
    paddedNat 2 (minutes.natAbs / 60) ++ paddedNat 2 (minutes.natAbs % 60)

/-- The ending that makes a day an ordinal number in English. -/
def ordinalEnding (day : Nat) : String :=
  -- Eleven to thirteen are exceptions.
  if 11 ≤ day % 100 ∧ day % 100 ≤ 13 then "th"
  else match day % 10 with
    | 1 => "st"
    | 2 => "nd"
    | 3 => "rd"
    | _ => "th"

/-- The milliseconds of a date, where a leap second stays in its last one. -/
def Civil.millisecond (civil : Civil) : Nat :=
  min (civil.nanosecond / 1000000) 999

/-- A field of a date as it is written for a zone. -/
def Field.write (civil : Civil) (zone : Zone) : Field → List Char
  | .day padded => shortNat padded civil.day
  | .dayName full => (dayNames.getD (civil.weekday + if full then 7 else 0) "").toList
  | .month padded => shortNat padded civil.month
  | .monthName full => (monthNames.getD (civil.month - 1 + if full then 12 else 0) "").toList
  -- A short year is the year without its first two characters.
  | .year full => if full then civil.year.repr.toList else civil.year.repr.toList.drop 2
  | .halfDayHour padded =>
    shortNat padded (if civil.hour % 12 = 0 then 12 else civil.hour % 12)
  | .hour padded => shortNat padded civil.hour
  | .minute padded => shortNat padded civil.minute
  | .second padded => shortNat padded civil.second
  | .millisecond => paddedNat 3 civil.millisecond
  -- Milliseconds of less than three digits are not rounded.
  | .centisecond =>
    paddedNat 2 (if 99 < civil.millisecond then (civil.millisecond + 5) / 10 else civil.millisecond)
  | .halfDay full => (if civil.hour < 12 then 'a' else 'p') :: if full then ['m'] else []
  | .halfDayUpper full => (if civil.hour < 12 then 'A' else 'P') :: if full then ['M'] else []
  | .zone => match zone with
    | .utc => "UTC".toList
    | .east _ => "GMT".toList ++ zone.distance
  | .offset => zone.distance
  | .ordinal => (ordinalEnding civil.day).toList

/-- A token as it is written for a date, where one that names no field stands for itself. -/
def writeToken (civil : Civil) (zone : Zone) (token : List Char) : List Char :=
  match Field.ofToken? token with
  | some field => field.write civil zone
  | none => token

/-- A piece of a mask as it is written for a date. -/
def MaskPiece.write (civil : Civil) (zone : Zone) : MaskPiece → List Char
  | .token text => writeToken civil zone text
  | .quotation _ inside => inside
  | .single c => [c]

/-- The mask that a name stands for, the default one for no text, or the text itself. -/
def selectMask (mask : String) : List Char :=
  ((namedMask? (if mask = "" then "default" else mask)).getD mask).toList

/-- A mask without the sign that it is for universal time, and whether it had one. -/
def splitUtc : List Char → Bool × List Char
  | 'U' :: 'T' :: 'C' :: ':' :: mask => (true, mask)
  | mask => (false, mask)

namespace Moment

/-- Writes a moment as a mask says, for universal time if that is asked for. -/
def format (moment : Moment) (mask : String) (utc : Bool) : String :=
  let (marked, mask) := splitUtc (selectMask mask)
  let (civil, zone) :=
    if utc || marked then (moment.universal, .utc)
    -- Seconds of an offset are left out.
    else (moment.civil, .east (moment.offset.tdiv 60))
  .ofList ((maskPieces mask).flatMap (·.write civil zone))

/-- Writes a moment as a mask says, in universal time. -/
def formatUtc (moment : Moment) (mask : String) : String :=
  moment.inUtc.format mask true

end Moment

end TextTemplate
