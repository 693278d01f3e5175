import TextTemplate.Text.Ligature
import TextTemplate.Text.Picture
import TextTemplate.Text.Wide

/-! The columns that a text fills depend on how its characters join. -/

namespace TextTemplate

/-- The width of a character that joins nothing behind it. -/
def soloWidth (c : Char) : Int :=
  if c.toNat ≤ 0xA0 then 1
  -- The Khmer sign beyyal is as wide as the three letters that it stands for.
  else if c = '\u17d8' then 3
  else if zeroWidth.has c then 0
  else if wide.has c then 2
  else 1

/-- What follows a character, as far as it changes the width of that character. -/
inductive Following where
  /-- Nothing that joins. -/
  | nothing
  /-- A line feed, which forms one break with a carriage return. -/
  | lineFeed
  /-- A picture, or the end of one. -/
  | picture (shape : Picture)
  /-- The later part of a possible ligature. -/
  | ligature (tail : Ligature)
  /-- A selector that asks for a picture, with a ligature that it may stand in. -/
  | pictureStyle (behind : Option Ligature)
  /-- A selector that asks for a picture, before a joiner and a picture. -/
  | joinedPictureStyle
  /-- A selector that asks for plain text, with a ligature that it may stand in. -/
  | textStyle (behind : Option Ligature)
  deriving DecidableEq, Repr

namespace Following

/-- A ligature that is still open, or nothing. -/
def ofLigature : Option Ligature → Following
  | some tail => .ligature tail
  | none => .nothing

/-- What a character is to the one before it. -/
def ofChar (c : Char) : Following :=
  if c = '\n' then .lineFeed
  else match Picture.ofChar? c with
    | some shape => .picture shape
    | none => ofLigature (Ligature.ofChar? c)

/-- The ligature that a selector of style would stand in. -/
def bearingStyle : Following → Option Ligature
  | .ligature tail => some tail
  | .pictureStyle behind | .textStyle behind => behind
  | _ => none

/-- What a selector that asks for a picture makes of what follows it. -/
def withPictureStyle : Following → Following
  | .picture .joined | .picture .joinedKeycap => .joinedPictureStyle
  | following => .pictureStyle following.bearingStyle

/-- The width of a character in a ligature that may stand behind it, if it joins it. -/
def joinLigature? (c : Char) (behind : Option Ligature) : Option (Int × Following) := do
  let (width, rest) ← (← behind).join? c
  return (width, ofLigature rest)

/-- The width of a character that joins what follows it, and what both are together. -/
def join? (c : Char) : Following → Option (Int × Following)
  | .nothing => none
  | .lineFeed => if c = '\r' then some (0, .nothing) else none
  | .picture shape => (shape.join? c).map fun (width, more) => (width, .picture more)
  | .ligature tail => joinLigature? c tail
  | .pictureStyle behind =>
    if picturable.has c then some (2, .picture .whole) else joinLigature? c behind
  | .joinedPictureStyle => if picturable.has c then some (0, .picture .whole) else none
  | .textStyle behind =>
    if textStyled.has c then some (1, .nothing) else joinLigature? c behind

/-- The width of a character before what follows it, and what it is to the one before. -/
def place (c : Char) (following : Following) : Int × Following :=
  if c = '\ufe0f' then (0, following.withPictureStyle)
  else if c = '\ufe0e' then (0, .textStyle following.bearingStyle)
  else (following.join? c).getD (soloWidth c, ofChar c)

end Following

/-- The columns that a text fills, read from its end because what follows decides. -/
def displayWidth (cs : List Char) : Nat :=
  let step (c : Char) (right : Int × Following) : Int × Following :=
    let (width, following) := right.2.place c
    (right.1 + width, following)
  (cs.foldr step (0, .nothing)).1.toNat

end TextTemplate
