import TextTemplate.Text.ZeroWidth

/-! Letters of some scripts are drawn as one with the letters before them. -/

namespace TextTemplate

/-- Variation selectors and fillers, which leave most ligatures whole. -/
def ligatureFillers : CodePoints :=
  ⟨[(0x034F, 0x034F), (0x17B4, 0x17B5), (0x180B, 0x180D), (0x180F, 0x180F), (0xFE00, 0xFE0D),
    (0xE0100, 0xE01EF)]⟩

/-- Whether a character leaves the cursive letters around it joined. -/
def isCursiveMark (c : Char) : Bool :=
  zeroWidth.has c && !unjoining.has c

/-- Arabic letters of the shape of alef. -/
def alefs : CodePoints :=
  ⟨[(0x0622, 0x0623), (0x0625, 0x0625), (0x0627, 0x0627), (0x0671, 0x0673), (0x0675, 0x0675),
    (0x0773, 0x0774), (0x0870, 0x0882)]⟩

/-- Arabic letters of the shape of lam. -/
def lams : CodePoints :=
  ⟨[(0x0644, 0x0644), (0x06B5, 0x06B8), (0x076A, 0x076A), (0x08A6, 0x08A6), (0x08C7, 0x08C7)]⟩

/-- Khmer letters whose subscript form takes no room of its own. -/
def khmerSubscripts : CodePoints :=
  ⟨[(0x1780, 0x1782), (0x1784, 0x1787), (0x1789, 0x178C), (0x178E, 0x1793), (0x1795, 0x1798),
    (0x179B, 0x179D), (0x17A0, 0x17A0), (0x17A2, 0x17A2), (0x17A7, 0x17A7), (0x17AB, 0x17AC),
    (0x17AF, 0x17AF)]⟩

/-- Tifinagh consonants. -/
def tifinaghConsonants : CodePoints :=
  ⟨[(0x2D31, 0x2D65), (0x2D6F, 0x2D6F)]⟩

/-- Lisu tone letters that begin a pair. -/
def lisuTones : CodePoints :=
  ⟨[(0xA4F8, 0xA4FB)]⟩

/-- The later part of a ligature. -/
inductive LigatureEnd where
  | alef
  | lamed
  | ya
  /-- A Buginese vowel sign joined to the letter ya. -/
  | vowelWithYa
  | tifinagh
  /-- A Tifinagh consonant joiner with its second consonant. -/
  | tifinaghPair
  | lisuTone
  | orkhonI
  | khmerSubscript
  deriving DecidableEq, Repr

/-- The later part of a ligature, with what is known of a joiner before it. -/
structure Ligature where
  ending : LigatureEnd
  /-- A joiner was read or is not needed. -/
  joined : Bool
  deriving DecidableEq, Repr

/-- The ligature that a character can be the last letter of. -/
def Ligature.ofChar? (c : Char) : Option Ligature :=
  if alefs.has c then some ⟨.alef, true⟩
  else if c = '\u05dc' then some ⟨.lamed, false⟩
  else if c = '\u1a10' then some ⟨.ya, false⟩
  else if khmerSubscripts.has c then some ⟨.khmerSubscript, true⟩
  else if tifinaghConsonants.has c then some ⟨.tifinagh, false⟩
  else if c = '\ua4fc' || c = '\ua4fd' then some ⟨.lisuTone, true⟩
  else if c.toNat = 0x10C03 then some ⟨.orkhonI, false⟩
  else none

/-- Whether joiners and fillers before the later part leave a ligature whole. -/
def LigatureEnd.bearsFillers : LigatureEnd → Bool
  | .alef => false
  | _ => true

/-- The width that a character has in a ligature, and what of the ligature is read with it.

A character that does not belong to the ligature has none. -/
def Ligature.join? (ligature : Ligature) (c : Char) : Option (Int × Option Ligature) :=
  if ligature.ending.bearsFillers && c = '\u200d' then some (0, some ⟨ligature.ending, true⟩)
  else if ligature.ending.bearsFillers && ligatureFillers.has c then some (0, some ligature)
  else match ligature.ending with
    | .alef =>
      if lams.has c then some (0, none)
      else if isCursiveMark c then some (0, some ligature)
      else none
    | .lamed => if ligature.joined && c = '\u05d0' then some (0, none) else none
    | .ya => if ligature.joined && c = '\u1a17' then some (0, some ⟨.vowelWithYa, true⟩) else none
    | .vowelWithYa => if c = '\u1a15' then some (0, none) else none
    | .tifinagh =>
      if c = '\u2d7f' then some (1, some ⟨.tifinaghPair, true⟩)
      else if ligature.joined && tifinaghConsonants.has c then some (0, none)
      else none
    -- The mark that joins two consonants has taken a column of its own.
    | .tifinaghPair => if tifinaghConsonants.has c then some (-1, none) else none
    | .lisuTone => if lisuTones.has c then some (0, none) else none
    | .orkhonI => if ligature.joined && c.toNat = 0x10C32 then some (0, none) else none
    -- The subscript sign takes its letter below the letter before.
    | .khmerSubscript => if c = '\u17d2' then some (-1, none) else none

end TextTemplate
