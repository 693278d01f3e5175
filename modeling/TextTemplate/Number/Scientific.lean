import TextTemplate.Number.Ratio

/-! Decimal digits with a power of ten, and the two ways of writing them. -/

namespace TextTemplate

/-- Decimal digits and the power of ten of the first of them. -/
structure Scientific where
  digits : List Char
  exponent : Int
  deriving DecidableEq, Repr

/-- The sign of a negative number, and nothing for others. -/
def minusSign (negative : Bool) : List Char :=
  if negative then ['-'] else []

namespace Scientific

/-- The digits of a whole number over a power of ten. -/
def ofScaled (n : Nat) (places : Int) : Scientific :=
  ⟨Nat.toDigits 10 n, digitCount n - 1 - places⟩

/-- The same number without zeros at the end. -/
def trimmed (s : Scientific) : Scientific :=
  ⟨(s.digits.reverse.dropWhile (· = '0')).reverse, s.exponent⟩

/-- Whether no digit stands behind the point. -/
def isWhole (s : Scientific) : Bool :=
  s.digits.length ≤ s.exponent + 1

/-- The number with all its digits in their places. -/
def plain (s : Scientific) : List Char :=
  match s.exponent with
  | .ofNat exponent =>
    if s.digits.length ≤ exponent + 1 then
      s.digits ++ List.replicate (exponent + 1 - s.digits.length) '0'
    else s.digits.take (exponent + 1) ++ '.' :: s.digits.drop (exponent + 1)
  | .negSucc zeros => '0' :: '.' :: List.replicate zeros '0' ++ s.digits

/-- An integer with its sign, also when it is positive. -/
def signedInteger (n : Int) : List Char :=
  (if n < 0 then '-' else '+') :: Nat.toDigits 10 n.natAbs

/-- The number as a mantissa below ten and a signed power of ten. -/
def exponential (s : Scientific) : List Char :=
  let mantissa := match s.digits with
    | first :: second :: rest => first :: '.' :: second :: rest
    | digits => digits
  mantissa ++ 'e' :: signedInteger s.exponent

end Scientific

/-- The digits of a fraction, rounded to a positive count of them. -/
def Ratio.significant (r : Ratio) (count : Nat) : Scientific :=
  if r.num = 0 then ⟨List.replicate count '0', 0⟩
  else
    let exponent := r.leadingExponent
    let rounded := (r.scaled (count - 1 - exponent)).round
    -- Rounding up may add a digit, and then the last one is a zero too many.
    if rounded = tenPow count then ⟨Nat.toDigits 10 (tenPow (count - 1)), exponent + 1⟩
    else ⟨Nat.toDigits 10 rounded, exponent⟩

/-- A fraction rounded to a count of decimals. -/
def Ratio.fixed (r : Ratio) (decimals : Nat) : List Char :=
  let digits := Nat.toDigits 10 (r.scaled decimals).round
  -- At least one digit stands before the point.
  let digits := List.replicate (decimals + 1 - digits.length) '0' ++ digits
  let whole := digits.length - decimals
  if decimals = 0 then digits else digits.take whole ++ '.' :: digits.drop whole

end TextTemplate
