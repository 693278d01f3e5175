import TextTemplate.Number.Basic
import TextTemplate.Number.Literal

/-! Numbers are recognised in text. -/

namespace TextTemplate

/-- Reads a whole text as infinity by its full name. -/
def readInfinity? (cs : List Char) : Option Binary64 :=
  let (negative, rest) := readSign cs
  if rest = "Infinity".toList then some (.infinite negative) else none

namespace Number

/-- Reads a whole text as a number: an integer of 64 bits, a decimal number within the range of
double precision, or infinity. -/
def ofText? (cs : List Char) : Option Number :=
  match (readInteger? cs).filter fitsInt64 with
  | some n => some (.int (.ofInt n))
  | none =>
    match Literal.read? cs with
    | some literal =>
      -- A decimal number beyond the range is no infinity.
      if literal.toBinary64.isFinite then some (.float literal.toBinary64) else none
    | none => (readInfinity? cs).map .float

/-- The sign and the digits at the start of a text, as a number. -/
def ofLeadingDigits (cs : List Char) : Number :=
  let (negative, rest) := readSign cs
  let digits := rest.takeWhile Char.isDigit
  if digits = [] then .float .nan
  else ofInt (signedInt negative (Nat.ofDigitChars 10 digits 0))

end Number

end TextTemplate
