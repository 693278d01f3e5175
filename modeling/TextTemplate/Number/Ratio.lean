/-! Nonnegative fractions are rounded and scaled exactly. -/

namespace TextTemplate

/-- A magnitude with its sign. -/
def signedInt (negative : Bool) (magnitude : Nat) : Int :=
  if negative then -magnitude else magnitude

/-- A power of two. -/
def twoPow (exponent : Nat) : Nat :=
  Nat.pow 2 exponent

/-- A power of ten. -/
def tenPow (exponent : Nat) : Nat :=
  Nat.pow 10 exponent

/-- Powers of two are positive. -/
theorem twoPow_pos (exponent : Nat) : 0 < twoPow exponent :=
  Nat.two_pow_pos exponent

/-- Powers of ten are positive. -/
theorem tenPow_pos (exponent : Nat) : 0 < tenPow exponent :=
  Nat.pow_pos (by decide)

/-- A nonnegative fraction, not necessarily in lowest terms. -/
structure Ratio where
  num : Nat
  den : Nat
  den_pos : 0 < den
  deriving DecidableEq, Repr

/-- A whole number as a fraction. -/
def Ratio.ofNat (n : Nat) : Ratio :=
  ⟨n, 1, Nat.one_pos⟩

/-- The nearest whole number, where a half goes to the even neighbour. -/
def Ratio.round (r : Ratio) : Nat :=
  let whole := r.num / r.den
  let rest := r.num % r.den
  if 2 * rest < r.den then whole
  else if r.den < 2 * rest then whole + 1
  else whole + whole % 2

/-- A fraction times a power of ten. -/
def Ratio.scaled (r : Ratio) (exponent : Int) : Ratio :=
  -- A negative power grows the denominator instead of the numerator.
  { num := r.num * tenPow exponent.toNat
    den := r.den * tenPow (-exponent).toNat
    den_pos := Nat.mul_pos r.den_pos (tenPow_pos _) }

/-- The number of decimal digits of a whole number. -/
def digitCount (n : Nat) : Nat :=
  (Nat.toDigits 10 n).length

/-- The power of ten of the first significant digit of a positive fraction. -/
def Ratio.leadingExponent (r : Ratio) : Int :=
  -- The digit counts leave two candidates, and one comparison decides between them.
  let upper : Int := digitCount r.num - digitCount r.den
  let mantissa := r.scaled (-upper)
  if mantissa.den ≤ mantissa.num then upper else upper - 1

end TextTemplate
