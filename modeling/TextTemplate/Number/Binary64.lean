import TextTemplate.Number.Ratio

/-! Floating point numbers of double precision, by the values they stand for. -/

namespace TextTemplate

/-- A finite magnitude: a significand times a power of two, in units of 2 ^ -1074.

Each magnitude has one such form, because only the smallest ones may leave the top bit clear. -/
structure Magnitude where
  significand : Nat
  shift : Nat
  /-- A significand has 53 bits. -/
  significand_lt : significand < 0x20000000000000
  shift_le : shift ≤ 2045
  canonical : shift = 0 ∨ 0x10000000000000 ≤ significand
  deriving DecidableEq, Repr

/-- The magnitude zero. -/
def Magnitude.zero : Magnitude :=
  ⟨0, 0, by decide, by decide, .inl rfl⟩

/-- A magnitude counted in units of 2 ^ -1074. -/
def Magnitude.units (m : Magnitude) : Nat :=
  m.significand * twoPow m.shift

/-- The exact value of a magnitude. -/
def Magnitude.ratio (m : Magnitude) : Ratio :=
  ⟨m.units, twoPow 1074, twoPow_pos 1074⟩

/-- The magnitude of given parts, unless they exceed the range. -/
def Magnitude.ofParts? (significand shift : Nat) : Option Magnitude :=
  if fits : significand < 0x20000000000000 ∧ shift ≤ 2045 ∧
      (shift = 0 ∨ 0x10000000000000 ≤ significand) then
    some ⟨significand, shift, fits.1, fits.2.1, fits.2.2⟩
  else none

/-- The magnitude nearest to a number of units, a tie going to the even significand. -/
def Magnitude.nearest? (units : Ratio) : Option Magnitude :=
  -- The shift leaves a whole part of 53 bits, or all bits when there are no more.
  let shift := (units.num / units.den).log2 - 52
  let significand := Ratio.round
    ⟨units.num, units.den * twoPow shift, Nat.mul_pos units.den_pos (twoPow_pos shift)⟩
  -- Rounding may carry into the next power of two.
  if significand = 0x20000000000000 then ofParts? 0x10000000000000 (shift + 1)
  else ofParts? significand shift

/-- A number of double precision. -/
inductive Binary64 where
  | nan
  | infinite (negative : Bool)
  | finite (negative : Bool) (magnitude : Magnitude)
  deriving DecidableEq, Repr

namespace Binary64

/-- The number nearest to a signed quantity of units of 2 ^ -1074, or infinity beyond the range. -/
def ofUnits (negative : Bool) (units : Ratio) : Binary64 :=
  match Magnitude.nearest? units with
  | some magnitude => .finite negative magnitude
  | none => .infinite negative

/-- The number nearest to a signed fraction. -/
def ofRatio (negative : Bool) (r : Ratio) : Binary64 :=
  ofUnits negative ⟨r.num * twoPow 1074, r.den, r.den_pos⟩

/-- The number nearest to an integer. -/
def ofInt (n : Int) : Binary64 :=
  ofRatio (n < 0) (Ratio.ofNat n.natAbs)

/-- The number nearest to a whole number times a power of ten. -/
def ofDecimal (negative : Bool) (digits : Nat) (exponent : Int) : Binary64 :=
  -- Powers of ten far outside the range are not computed.
  if digits = 0 then .finite negative .zero
  else if 400 < digitCount digits + exponent then .infinite negative
  else if digitCount digits + exponent < -400 then .finite negative .zero
  else ofRatio negative ((Ratio.ofNat digits).scaled exponent)

/-- The number that 64 bits encode: a sign, eleven bits of exponent, and a fraction. -/
def ofBits (bits : UInt64) : Binary64 :=
  let negative : Bool := 0x8000000000000000 ≤ bits.toNat
  let exponent := bits.toNat / 0x10000000000000 % 0x800
  let fraction := bits.toNat % 0x10000000000000
  have fraction_lt : fraction < 0x10000000000000 := Nat.mod_lt _ (by decide)
  have exponent_lt : exponent < 0x800 := Nat.mod_lt _ (by decide)
  if special : exponent = 0x7FF then
    if fraction = 0 then .infinite negative else .nan
  -- The smallest magnitudes leave the top bit clear.
  else if exponent = 0 then
    .finite negative ⟨fraction, 0, by omega, by omega, .inl rfl⟩
  else
    .finite negative
      ⟨0x10000000000000 + fraction, exponent - 1, by omega, by omega, .inr (by omega)⟩

/-- The number that 32 bits encode in single precision. -/
def ofSingleBits (bits : UInt32) : Binary64 :=
  let negative : Bool := 0x80000000 ≤ bits.toNat
  let exponent := bits.toNat / 0x800000 % 0x100
  let fraction := bits.toNat % 0x800000
  if exponent = 0xFF then
    if fraction = 0 then .infinite negative else .nan
  else
    -- The smallest step of single precision is 2 ^ -149.
    let units :=
      if exponent = 0 then fraction * twoPow 925
      else (0x800000 + fraction) * twoPow (exponent - 1 + 925)
    ofUnits negative (Ratio.ofNat units)

/-- The bits of a number, with one pattern for all that are not a number. -/
def toBits : Binary64 → UInt64
  | .nan => 0x7FF8000000000000
  | .infinite negative => 0x7FF0000000000000 + signBit negative
  | .finite negative m =>
    -- The top bit of a full significand carries into the exponent.
    .ofNat (m.shift * 0x10000000000000 + m.significand) + signBit negative
where
  /-- The topmost bit. -/
  signBit (negative : Bool) : UInt64 :=
    if negative then 0x8000000000000000 else 0

/-- Whether a number has a finite value. -/
def isFinite : Binary64 → Bool
  | .finite .. => true
  | _ => false

/-- Whether a number has no magnitude. -/
def isZero : Binary64 → Bool
  | .finite _ m => m.significand = 0
  | _ => false

/-- Whether a number is at least zero, which holds of both zeros. -/
def nonnegative : Binary64 → Bool
  | .nan => false
  | .infinite negative => !negative
  | .finite negative m => !negative || m.significand = 0

/-- Numeric equality: zeros are equal, and what is not a number equals nothing. -/
def same : Binary64 → Binary64 → Bool
  | .infinite left, .infinite right => left = right
  | .finite left m, .finite right n => m = n && (left = right || m.significand = 0)
  | _, _ => false

/-- The integer part of a finite number. -/
def truncate? : Binary64 → Option Int
  | .finite negative m =>
    -- Bits below one are cut off, whatever the sign.
    some (signedInt negative (m.units / twoPow 1074))
  | _ => none

/-- The integer that a number equals, if there is one of at most 2 ^ 53 in magnitude. -/
def exactInteger? : Binary64 → Option Int
  | .finite negative m =>
    let whole := m.units / twoPow 1074
    if m.units % twoPow 1074 = 0 ∧ whole ≤ twoPow 53 then some (signedInt negative whole)
    else none
  | _ => none

end Binary64

end TextTemplate
