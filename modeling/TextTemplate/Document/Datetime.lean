import TextTemplate.Number.Padded
import TextTemplate.Number.Ratio

/-! Dates and times in documents have one written form each. -/

namespace TextTemplate

/-- How far a time lies from universal time. -/
inductive Datetime.Offset where
  | universal
  /-- Minutes to the east. -/
  | east (minutes : Int)
  deriving DecidableEq, Repr

/-- A date of the calendar. -/
structure Datetime.Date where
  year : Nat
  month : Nat
  day : Nat
  deriving DecidableEq, Repr

/-- A time of day. -/
structure Datetime.Time where
  hour : Nat
  minute : Nat
  second : Nat
  nanosecond : Nat
  deriving DecidableEq, Repr

/-- A date, a time, or both, and then perhaps an offset. -/
structure Datetime where
  date : Option Datetime.Date
  time : Option Datetime.Time
  offset : Option Datetime.Offset
  deriving DecidableEq, Repr

/-- Reads a count of digits. -/
def readDigits? (count : Nat) (cs : List Char) : Option (Nat × List Char) :=
  let digits := cs.take count
  if digits.length = count ∧ digits.all Char.isDigit then
    some (Nat.ofDigitChars 10 digits 0, cs.drop count)
  else none

/-- Reads one character that has to be there. -/
def readMark? (mark : Char) : List Char → Option (List Char)
  | [] => none
  | c :: cs => if c = mark then some cs else none

namespace Datetime

/-- The number of days of a month. -/
def monthLength (year month : Nat) : Nat :=
  if month = 2 then if year % 4 = 0 ∧ (year % 100 ≠ 0 ∨ year % 400 = 0) then 29 else 28
  else if month = 4 ∨ month = 6 ∨ month = 9 ∨ month = 11 then 30
  else 31

/-- Reads a date. -/
def readDate? (cs : List Char) : Option (Datetime.Date × List Char) := do
  let (year, cs) ← readDigits? 4 cs
  let cs ← readMark? '-' cs
  let (month, cs) ← readDigits? 2 cs
  let cs ← readMark? '-' cs
  let (day, cs) ← readDigits? 2 cs
  guard (1 ≤ month ∧ month ≤ 12 ∧ 1 ≤ day ∧ day ≤ monthLength year month)
  return (⟨year, month, day⟩, cs)

/-- Reads the fraction of a second as nanoseconds, where one stands. -/
def readFraction? : List Char → Option (Nat × List Char)
  | '.' :: cs =>
    let digits := cs.takeWhile Char.isDigit
    -- Digits below a nanosecond are dropped.
    let kept := digits.take 9 ++ List.replicate (9 - digits.length) '0'
    if digits = [] then none
    else some (Nat.ofDigitChars 10 kept 0, cs.dropWhile Char.isDigit)
  | cs => some (0, cs)

/-- Reads a time of day, where midnight may end a day and a leap second a minute. -/
def readTime? (cs : List Char) : Option (Datetime.Time × List Char) := do
  let (hour, cs) ← readDigits? 2 cs
  let cs ← readMark? ':' cs
  let (minute, cs) ← readDigits? 2 cs
  let cs ← readMark? ':' cs
  let (second, cs) ← readDigits? 2 cs
  let (nanosecond, cs) ← readFraction? cs
  -- These bounds are wider than those of a clock.
  guard (hour ≤ 24 ∧ minute < 60 ∧ second ≤ 60)
  return (⟨hour, minute, second, nanosecond⟩, cs)

/-- Reads an offset up to the end of the text, where one stands. -/
def readOffset? : List Char → Option (Option Datetime.Offset)
  | [] => some none
  | ['Z'] | ['z'] => some (some .universal)
  | c :: cs => do
    guard (c = '+' ∨ c = '-')
    let (hours, cs) ← readDigits? 2 cs
    let cs ← readMark? ':' cs
    let (minutes, cs) ← readDigits? 2 cs
    -- No zone is more than a day away.
    guard (hours * 60 + minutes ≤ 24 * 60 ∧ cs = [])
    return some (.east (signedInt (c = '-') (hours * 60 + minutes)))

/-- Reads a whole text as a date, a time, or both. -/
def read? (cs : List Char) : Option Datetime := do
  match readDate? cs with
  -- A date can stand alone, and so can a time.
  | some (date, []) => return ⟨some date, none, none⟩
  | some (date, separator :: cs) =>
    guard (separator = 'T' ∨ separator = 't' ∨ separator = ' ')
    let (time, cs) ← readTime? cs
    let offset ← readOffset? cs
    return ⟨some date, some time, offset⟩
  | none =>
    let (time, cs) ← readTime? cs
    guard (cs = [])
    return ⟨none, some time, none⟩

/-- A date in its one written form. -/
def writeDate (date : Datetime.Date) : List Char :=
  paddedNat 4 date.year ++ '-' :: paddedNat 2 date.month ++ '-' :: paddedNat 2 date.day

/-- A time in its one written form, whose fraction ends in no zero. -/
def writeTime (time : Datetime.Time) : List Char :=
  paddedNat 2 time.hour ++ ':' :: paddedNat 2 time.minute ++ ':' :: paddedNat 2 time.second ++
    -- Nothing is written of a whole second.
    if time.nanosecond = 0 then []
    else '.' :: ((paddedNat 9 time.nanosecond).reverse.dropWhile (· = '0')).reverse

/-- An offset in its one written form. -/
def writeOffset : Datetime.Offset → List Char
  | .universal => ['Z']
  | .east minutes =>
    (if minutes < 0 then '-' else '+') ::
      paddedNat 2 (minutes.natAbs / 60) ++ ':' :: paddedNat 2 (minutes.natAbs % 60)

/-- A date, a time, or both in their one written form. -/
def write (datetime : Datetime) : List Char :=
  let date := (datetime.date.map writeDate).getD []
  let time := (datetime.time.map writeTime).getD []
  let offset := (datetime.offset.map writeOffset).getD []
  date ++ (if datetime.date.isSome ∧ datetime.time.isSome then ['T'] else []) ++ time ++ offset

end Datetime

end TextTemplate
