import TextTemplate.Text.Emoji

/-! Pictures join the pictures before them into one. -/

namespace TextTemplate

/-- Whether a character is a skin tone. -/
def isSkinTone (c : Char) : Bool :=
  0x1F3FB ≤ c.toNat && c.toNat ≤ 0x1F3FF

/-- Whether a character is a letter of a flag. -/
def isFlagLetter (c : Char) : Bool :=
  0x1F1E6 ≤ c.toNat && c.toNat ≤ 0x1F1FF

/-- Whether a character is a tag for a small letter. -/
def isLetterTag (c : Char) : Bool :=
  0xE0061 ≤ c.toNat && c.toNat ≤ 0xE007A

/-- Whether a character is a tag for a digit. -/
def isDigitTag (c : Char) : Bool :=
  0xE0030 ≤ c.toNat && c.toNat ≤ 0xE0039

/-- A picture, or the end of one, by what may join before it. -/
inductive Picture where
  /-- A picture that is complete. -/
  | whole
  /-- A skin tone, which colours the picture before it. -/
  | skinTone
  /-- One letter of a flag. -/
  | flagLetter
  /-- Two or more letters of flags. -/
  | flagLetters
  /-- A joiner and then a picture, which swallow the picture before them. -/
  | joined
  /-- The same behind the frame of a keycap. -/
  | joinedKeycap
  /-- The same behind one letter of a flag. -/
  | joinedFlagLetter
  /-- The same behind several letters of flags. -/
  | joinedFlagLetters (even : Bool)
  /-- The same behind the tags of a flag of a region, as far as they are read. -/
  | joinedTags (letters digits : Nat)
  deriving DecidableEq, Repr

namespace Picture

/-- The picture that a character is by itself. -/
def ofChar? (c : Char) : Option Picture :=
  if isSkinTone c then some .skinTone
  else if isFlagLetter c then some .flagLetter
  else if pictures.has c then some .whole
  else none

/-- The width of a character before a joiner, and the picture it joins, if it does. -/
def joinJoined? (c : Char) : Option (Int × Picture) :=
  if c = '\u20e3' then some (0, .joinedKeycap)
  else if c.toNat = 0xE007F then some (0, .joinedTags 0 0)
  else match ofChar? c with
    -- Letters of flags swallow each other in pairs.
    | some .flagLetter => some (1, .joinedFlagLetter)
    | some picture => some (0, picture)
    | none => none

/-- The width of a character before the tags of a flag, and the picture it joins, if it does.

A region is named by three digits or two letters, and up to four characters follow. -/
def joinTags? (letters digits : Nat) (c : Char) : Option (Int × Picture) :=
  if isLetterTag c && digits = 0 && letters < 6 then some (0, .joinedTags (letters + 1) 0)
  else if isDigitTag c && digits < 3 && letters ≤ 4 then some (0, .joinedTags letters (digits + 1))
  else if c.toNat = 0x1F3F4 && (digits = 3 || digits = 0 && 3 ≤ letters) then some (0, .whole)
  else none

/-- The width of a character before a picture, and the picture it joins, if it does. -/
def join? (c : Char) : Picture → Option (Int × Picture)
  | .whole => if c = '\u200d' then some (0, .joined) else none
  | .skinTone =>
    if skinned.has c then some (0, .whole)
    else if c = '\u200d' then some (0, .joined)
    else none
  | .flagLetter => if isFlagLetter c then some (1, .flagLetters) else none
  | .flagLetters =>
    if isFlagLetter c then some (1, .flagLetters)
    else if c = '\u200d' then some (0, .joined)
    else none
  | .joined => joinJoined? c
  | .joinedKeycap => none
  | .joinedFlagLetter => if isFlagLetter c then some (-1, .joinedFlagLetters true) else none
  | .joinedFlagLetters even =>
    if c = '\u200d' then some (0, .joined)
    else if isFlagLetter c then some (if even then 3 else -1, .joinedFlagLetters !even)
    else none
  | .joinedTags letters digits => joinTags? letters digits c

end Picture

end TextTemplate
