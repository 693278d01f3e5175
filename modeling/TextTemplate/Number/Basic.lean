import TextTemplate.Number.Binary64

/-! A number is an integer of 64 bits or a floating point number. -/

namespace TextTemplate

/-- Whether an integer is one of 64 bits. -/
def fitsInt64 (n : Int) : Bool :=
  Int64.minValue.toInt ≤ n && n ≤ Int64.maxValue.toInt

/-- The integers of 64 bits are those between two bounds. -/
theorem fitsInt64_iff (n : Int) :
    fitsInt64 n ↔ -9223372036854775808 ≤ n ∧ n ≤ 9223372036854775807 := by
  rw [fitsInt64, Bool.and_eq_true, decide_eq_true_iff, decide_eq_true_iff]
  exact Iff.rfl

/-- An integer of 64 bits is one. -/
theorem fitsInt64_toInt (n : Int64) : fitsInt64 n.toInt :=
  (fitsInt64_iff n.toInt).mpr ⟨n.minValue_le_toInt, n.toInt_le⟩

/-- An integer that is one of 64 bits is kept as one. -/
theorem toInt_ofInt_of_fitsInt64 {n : Int} (fits : fitsInt64 n) : (Int64.ofInt n).toInt = n := by
  obtain ⟨least, most⟩ := (fitsInt64_iff n).mp fits
  exact Int64.toInt_ofInt_of_le (by omega) (by omega)

/-- An integer as one of 64 bits with a sign, if it is one. -/
def int64? (n : Int) : Option Int64 :=
  if fitsInt64 n then some (.ofInt n) else none

/-- An integer as one of 64 bits without a sign, if it is one. -/
def uint64? (n : Int) : Option UInt64 :=
  if 0 ≤ n ∧ n < 0x10000000000000000 then some (.ofNat n.toNat) else none

/-- An integer of 64 bits or a number of double precision. -/
inductive Number where
  | int (n : Int64)
  | float (x : Binary64)
  deriving DecidableEq, Repr

namespace Number

/-- An integer, rounded when 64 bits do not hold it. -/
def ofInt (n : Int) : Number :=
  if fitsInt64 n then .int (.ofInt n) else .float (.ofInt n)

/-- The nearest floating point number. -/
def toBinary64 : Number → Binary64
  | .int n => .ofInt n.toInt
  | .float x => x

/-- Whether a number is at least zero. -/
def nonnegative : Number → Bool
  | .int n => 0 ≤ n.toInt
  | .float x => x.nonnegative

/-- The integer part, cut to 64 bits, of a number that has one. -/
def truncate? : Number → Option Int
  | .int n => some n.toInt
  | .float x => x.truncate?.map fun n =>
    if n < Int64.minValue.toInt then Int64.minValue.toInt
    else if Int64.maxValue.toInt < n then Int64.maxValue.toInt
    else n

end Number

end TextTemplate
