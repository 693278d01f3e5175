import TextTemplate.Number.Binary64

/-! Numbers as they are spelled in text. -/

namespace TextTemplate

/-- A decimal number: its sign, its digits as a whole number, and the power of ten of the last. -/
structure Literal where
  negative : Bool
  digits : Nat
  exponent : Int
  deriving DecidableEq, Repr

/-- The floating point number nearest to a literal. -/
def Literal.toBinary64 (literal : Literal) : Binary64 :=
  .ofDecimal literal.negative literal.digits literal.exponent

/-- Reads a sign that may be missing, and tells whether it is a minus. -/
def readSign : List Char → Bool × List Char
  | '-' :: rest => (true, rest)
  | '+' :: rest => (false, rest)
  | cs => (false, cs)

/-- Reads a whole text as a sign and one digit or more. -/
def readInteger? (cs : List Char) : Option Int :=
  let (negative, digits) := readSign cs
  if digits ≠ [] ∧ digits.all Char.isDigit then
    some (signedInt negative (Nat.ofDigitChars 10 digits 0))
  else none

/-- Reads what follows the digits of a decimal number: nothing, or a power of ten. -/
def readExponent? : List Char → Option Int
  | [] => some 0
  | c :: rest => if c = 'e' ∨ c = 'E' then readInteger? rest else none

/-- Reads a whole text as a decimal number, with a digit before or behind its point. -/
def Literal.read? (cs : List Char) : Option Literal := do
  let (negative, cs) := readSign cs
  let whole := cs.takeWhile Char.isDigit
  let cs := cs.dropWhile Char.isDigit
  let (decimals, cs) := match cs with
    | '.' :: rest => (rest.takeWhile Char.isDigit, rest.dropWhile Char.isDigit)
    | _ => ([], cs)
  let exponent ← readExponent? cs
  guard (whole ++ decimals ≠ [])
  return ⟨negative, Nat.ofDigitChars 10 (whole ++ decimals) 0, exponent - decimals.length⟩

end TextTemplate
