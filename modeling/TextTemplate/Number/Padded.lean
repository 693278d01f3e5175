/-! Numbers of a fixed form are filled up with zeros. -/

namespace TextTemplate

/-- A whole number with zeros before it up to a count of digits. -/
def paddedNat (count n : Nat) : List Char :=
  let digits := Nat.toDigits 10 n
  List.replicate (count - digits.length) '0' ++ digits

end TextTemplate
