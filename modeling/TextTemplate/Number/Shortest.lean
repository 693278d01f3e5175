import TextTemplate.Number.Binary64
import TextTemplate.Number.Scientific

/-! A floating point number is written with the fewest digits that read back as the same number. -/

namespace TextTemplate

/-- Which of two equally near numbers is taken. -/
inductive Tie where
  | upward
  | toEven
  deriving DecidableEq, Repr

namespace Magnitude

/-- Whether a fraction rounds to a magnitude.

Its neighbours lie one step away, half a step below a power of two, and the points halfway to
them belong to the magnitude when its significand is even. -/
def covers (m : Magnitude) (r : Ratio) : Bool :=
  -- All is counted in quarters of a step.
  let below := if m.significand = twoPow 52 ∧ 0 < m.shift then 1 else 2
  let low := (4 * m.significand - below) * twoPow m.shift * r.den
  let high := (4 * m.significand + 2) * twoPow m.shift * r.den
  let point := 4 * twoPow 1074 * r.num
  if m.significand % 2 = 0 then low ≤ point && point ≤ high else low < point && point < high

/-- The number of a count of digits that is nearest to a magnitude among those it covers. -/
def candidate? (tie : Tie) (m : Magnitude) (count : Nat) : Option Scientific :=
  let places := count - 1 - m.ratio.leadingExponent
  let scaled := m.ratio.scaled places
  -- Where any number of this many digits is covered, a neighbour of the magnitude is.
  let lower := scaled.num / scaled.den
  let rest := scaled.num % scaled.den
  let reads (n : Nat) := m.covers ((Ratio.ofNat n).scaled (-places))
  let chosen :=
    match reads lower, reads (lower + 1) with
    | true, true =>
      if 2 * rest < scaled.den then some lower
      else if scaled.den < 2 * rest then some (lower + 1)
      else match tie with
        | .upward => some (lower + 1)
        | .toEven => some (lower + lower % 2)
    | true, false => some lower
    | false, true => some (lower + 1)
    | false, false => none
  chosen.map fun n => (Scientific.ofScaled n places).trimmed

/-- The fewest digits that read back as a positive magnitude, and the nearest of those. -/
def shortest (tie : Tie) (m : Magnitude) : Scientific :=
  -- Seventeen digits tell all magnitudes apart.
  ((List.range' 1 17).findSome? (m.candidate? tie)).getD (m.ratio.significant 17)

end Magnitude

/-- How a number of the fewest digits is laid out. -/
structure Layout where
  /-- Which of two equally near numbers of the fewest digits is taken. -/
  tie : Tie
  /-- The least power of ten that is written in place. -/
  plainFrom : Int
  /-- The least power of ten above which a power is written out. -/
  plainBelow : Int
  /-- What follows a whole number that is written in place. -/
  wholeEnd : List Char

/-- Writes a positive magnitude. -/
def Layout.write (layout : Layout) (m : Magnitude) : List Char :=
  let s := m.shortest layout.tie
  if layout.plainFrom ≤ s.exponent ∧ s.exponent < layout.plainBelow then
    s.plain ++ if s.isWhole then layout.wholeEnd else []
  else s.exponential

end TextTemplate
