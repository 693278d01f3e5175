/-! A mask says which parts of a date are written, and how. -/

namespace TextTemplate

/-- Short day names and then full ones, from Sunday. -/
def dayNames : List String :=
  ["Sun", "Mon", "Tue", "Wed", "Thu", "Fri", "Sat",
    "Sunday", "Monday", "Tuesday", "Wednesday", "Thursday", "Friday", "Saturday"]

/-- Short month names and then full ones, from January. -/
def monthNames : List String :=
  ["Jan", "Feb", "Mar", "Apr", "May", "Jun", "Jul", "Aug", "Sep", "Oct", "Nov", "Dec",
    "January", "February", "March", "April", "May", "June",
    "July", "August", "September", "October", "November", "December"]

/-- Masks that are known by a name. -/
def namedMasks : List (String × String) :=
  [("default", "ddd mmm dd yyyy HH:MM:ss"),
    ("shortDate", "m/d/yy"),
    ("mediumDate", "mmm d, yyyy"),
    ("longDate", "mmmm d, yyyy"),
    ("fullDate", "dddd, mmmm d, yyyy"),
    ("shortTime", "h:MM TT"),
    ("mediumTime", "h:MM:ss TT"),
    ("longTime", "h:MM:ss TT Z"),
    ("isoDate", "yyyy-mm-dd"),
    ("isoTime", "HH:MM:ss"),
    ("isoDateTime", "yyyy-mm-dd'T'HH:MM:ss"),
    -- The mark in front asks for universal time.
    ("isoUtcDateTime", "UTC:yyyy-mm-dd'T'HH:MM:ss'Z'")]

/-- The mask of a name. -/
def namedMask? (name : String) : Option String :=
  namedMasks.lookup name

/-- A part of a date that a mask can ask for. -/
inductive Field where
  | day (padded : Bool)
  | dayName (full : Bool)
  | month (padded : Bool)
  | monthName (full : Bool)
  | year (full : Bool)
  /-- The hour of a clock of twelve hours. -/
  | halfDayHour (padded : Bool)
  | hour (padded : Bool)
  | minute (padded : Bool)
  | second (padded : Bool)
  | millisecond
  | centisecond
  /-- The half of the day. -/
  | halfDay (full : Bool)
  /-- The half of the day in capitals. -/
  | halfDayUpper (full : Bool)
  | zone
  | offset
  /-- The ending of the day as an ordinal number. -/
  | ordinal
  deriving DecidableEq, Repr

/-- The field that a token names. -/
def Field.ofToken? : List Char → Option Field
  -- Days and months have a number in two widths and a name in two lengths.
  | ['d'] => some (.day false)
  | ['d', 'd'] => some (.day true)
  | ['d', 'd', 'd'] => some (.dayName false)
  | ['d', 'd', 'd', 'd'] => some (.dayName true)
  | ['m'] => some (.month false)
  | ['m', 'm'] => some (.month true)
  | ['m', 'm', 'm'] => some (.monthName false)
  | ['m', 'm', 'm', 'm'] => some (.monthName true)
  -- A year has no name, and there is none of one letter.
  | ['y', 'y'] => some (.year false)
  | ['y', 'y', 'y', 'y'] => some (.year true)
  | ['h'] => some (.halfDayHour false)
  | ['h', 'h'] => some (.halfDayHour true)
  | ['H'] => some (.hour false)
  | ['H', 'H'] => some (.hour true)
  | ['M'] => some (.minute false)
  | ['M', 'M'] => some (.minute true)
  | ['s'] => some (.second false)
  | ['s', 's'] => some (.second true)
  | ['l'] => some .millisecond
  | ['L'] => some .centisecond
  | ['t'] => some (.halfDay false)
  | ['t', 't'] => some (.halfDay true)
  | ['T'] => some (.halfDayUpper false)
  | ['T', 'T'] => some (.halfDayUpper true)
  | ['Z'] => some .zone
  | ['o'] => some .offset
  | ['S'] => some .ordinal
  | _ => none

/-- How often a character stands in a row where a text begins. -/
def runLength (c : Char) (cs : List Char) : Nat :=
  (cs.takeWhile (· = c)).length

/-- How many characters belong to the token that a text begins with.

They are as many as can be, and none where the text begins with no token. -/
def tokenLength : List Char → Nat
  | [] => 0
  | c :: rest =>
    let run := runLength c (c :: rest)
    match c with
    | 'd' | 'm' => min run 4
    -- Three letters are a short year and a letter.
    | 'y' => if 4 ≤ run then 4 else if 2 ≤ run then 2 else 0
    | 'H' | 'h' | 'M' | 's' | 'T' | 't' => min run 2
    | 'L' | 'l' | 'o' | 'S' | 'Z' => 1
    | _ => 0

/-- A part of a mask. -/
inductive MaskPiece where
  | token (text : List Char)
  /-- Text between two quotes. -/
  | quotation (quote : Char) (inside : List Char)
  /-- A character that stands for itself. -/
  | single (c : Char)
  deriving DecidableEq, Repr

/-- Whether a character can begin and end a quotation. -/
def isQuote (c : Char) : Bool :=
  c = '\x27' || c = '\x22'

/-- The pieces of a mask, each as long as it can be. -/
def maskPieces (mask : List Char) : List MaskPiece :=
  match mask with
  | [] => []
  | c :: rest =>
    let count := tokenLength (c :: rest)
    if 0 < count then .token ((c :: rest).take count) :: maskPieces ((c :: rest).drop count)
    -- A quote that is not closed stands for itself.
    else if isQuote c ∧ c ∈ rest then
      .quotation c (rest.takeWhile (· ≠ c)) :: maskPieces ((rest.dropWhile (· ≠ c)).drop 1)
    else .single c :: maskPieces rest
termination_by mask.length
decreasing_by
  · simp only [List.length_drop, List.length_cons]
    omega
  · have := (List.dropWhile_sublist (l := rest) (· ≠ c)).length_le
    simp only [List.length_drop, List.length_cons]
    omega
  · simp only [List.length_cons]
    omega

end TextTemplate
