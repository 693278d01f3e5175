import TextTemplate.Number.Basic
import TextTemplate.Number.Shortest

/-! Numbers are shown in several notations.

The texts here have as many decimals as they are asked for. Their formatter counts decimals in
sixteen bits, and what is asked for beyond that ends the program instead. -/

namespace TextTemplate

/-- The most decimals that the formatter of numbers can count. -/
def maxDecimals : Nat := 0xFFFF

/-- Text of numbers stands in place from a millionth up to twenty-one digits. -/
def Layout.text : Layout :=
  { tie := .upward, plainFrom := -6, plainBelow := 21, wholeEnd := [] }

/-- The fewest digits that read back as the same number, where zero has no sign. -/
def Binary64.text : Binary64 → List Char
  | .nan => "NaN".toList
  | .infinite negative => minusSign negative ++ "Infinity".toList
  | .finite negative m =>
    -- The minus of a zero is not shown.
    if m.significand = 0 then ['0']
    else minusSign negative ++ Layout.text.write m

/-- A number in as few digits as tell it apart. -/
def Number.text : Number → List Char
  | .int n => n.toInt.repr.toList
  | .float x => x.text

/-- The integer part of a number in a base, or a word for what has none. -/
def integerText (base : Nat) (number : Number) : List Char :=
  match number.truncate? with
  | some n => minusSign (n < 0) ++ Nat.toDigits base n.natAbs
  | none => "NaN".toList

/-- The integer part of a number cut to 32 bits, with zero for what has none. -/
def unsignedText (number : Number) : List Char :=
  -- A negative number wraps around.
  Nat.toDigits 10 ((number.truncate?.getD 0) % 0x100000000).toNat

/-- The character of a code point, or the replacement character. -/
def characterText (number : Number) : List Char :=
  match number.truncate? with
  | some (.ofNat code) => if code.isValidChar then [.ofNat code] else ['\ufffd']
  | _ => ['\ufffd']

/-- A number as a mantissa and a power of ten, with a count of decimals or as few as needed.

The formatter writes it where the count is at most `maxDecimals`. -/
def exponentialText (precision : Option Nat) (x : Binary64) : List Char :=
  match x with
  | .finite negative m =>
    let digits := match precision with
      | some decimals => m.ratio.significant (decimals + 1)
      | none => if m.significand = 0 then ⟨['0'], 0⟩ else m.shortest Layout.text.tie
    minusSign negative ++ digits.exponential
  | x => x.text

/-- A number with a count of decimals, where zero has no sign.

The formatter writes it where the count is at most `maxDecimals`. -/
def fixedText (decimals : Nat) (x : Binary64) : List Char :=
  match x with
  | .finite negative m =>
    minusSign (negative && m.significand ≠ 0) ++ m.ratio.fixed decimals
  | x => x.text

/-- A number with a count of significant digits.

It is written in place unless it would need zeros behind its digits or too many before them. The
formatter writes it where all of `generalDecimals` are at most `maxDecimals`. -/
def generalText (precision : Nat) (x : Binary64) : List Char :=
  match x with
  | .finite negative m =>
    let count := max precision 1
    let digits := m.ratio.significant count
    minusSign (negative && m.significand ≠ 0) ++
      if digits.exponent < -6 ∨ count ≤ digits.exponent then digits.exponential
      -- The number is rounded once more, to the decimals that are left behind its first digit.
      else m.ratio.fixed (count - 1 - digits.exponent).toNat
  | x => x.text

/-- The counts of decimals that the formatter is asked for by a number in general notation. -/
def generalDecimals (precision : Nat) (m : Magnitude) : List Nat :=
  let count := max precision 1
  let exponent := (m.ratio.significant count).exponent
  -- The power of ten is read off a first text, which stays unless the number is written in place.
  if exponent < -6 ∨ count ≤ exponent then [count - 1]
  else [count - 1, (count - 1 - exponent).toNat]

/-- ASCII letters as capitals. -/
def upperText (text : List Char) : List Char :=
  text.map Char.toUpper

end TextTemplate
