import TextTemplate.Template.Render
import TextTemplate.Text.Width

/-! An error is shown below the line of the template where it is. -/

namespace TextTemplate

/-- The widest line that is shown. -/
def maxLineWidth : Nat := 60

/-- Whether a character ends a line. -/
def isLineEnd (c : Char) : Bool :=
  c = '\n' || c = '\r'

/-- Where the line of a position begins: behind the last end of a line before the position. -/
def lineStart? (source : List Char) (position : Nat) : Option Nat := do
  let (front, _) ← splitAtByte? position source
  return byteLength (front.reverse.dropWhile (!isLineEnd ·))

/-- Where the line of a position ends: before the first end of a line from the position on. -/
def lineStop? (source : List Char) (position : Nat) : Option Nat := do
  let (_, back) ← splitAtByte? position source
  return position + byteLength (back.takeWhile (!isLineEnd ·))

/-- Marks below a stretch of a line, of which there is at least one. -/
def underline? (line : List Char) (span : Span) : Option (List Char) := do
  let before ← slice? 0 span.start line
  let marked ← slice? span.start span.stop line
  return List.replicate (displayWidth before) ' ' ++
    List.replicate (max 1 (displayWidth marked)) '^'

/-- The line of a text where a stretch begins, underlined along the stretch.

The stretch must lie between characters of the text. A line that is too wide is not shown. -/
def highlight? (source : String) (span : Span) : Option String := do
  let start ← lineStart? source.toList span.start
  let stop ← lineStop? source.toList span.start
  let line ← slice? start stop source.toList
  if maxLineWidth < displayWidth line then return ""
  else
    -- Only the part of the stretch on the first line is underlined.
    let last := min span.stop stop
    guard (start ≤ span.start ∧ start ≤ last)
    let marks ← underline? line ⟨span.start - start, last - start⟩
    return String.ofList (' ' :: ' ' :: line ++ '\n' :: ' ' :: ' ' :: marks ++ ['\n'])

/-- The underlined line of a text where a stretch begins, and nothing for a foreign stretch. -/
def highlight (source : String) (span : Span) : String :=
  (highlight? source span).getD ""

end TextTemplate
