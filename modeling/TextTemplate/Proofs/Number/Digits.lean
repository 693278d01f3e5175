import Mathlib.Data.Nat.Init
import TextTemplate.Number.Padded
import TextTemplate.Number.Ratio

/-! The first and the last of the digits of a whole number. -/

namespace TextTemplate

/-- Whole numbers are told apart by their digits. -/
theorem toDigits_inj {number other : Nat} :
    Nat.toDigits 10 number = Nat.toDigits 10 other ↔ number = other := by
  -- The digits can be read back.
  refine ⟨fun same => ?_, congrArg (Nat.toDigits 10)⟩
  rw [← Nat.ofDigitChars_ten_toDigits (n := number), same, Nat.ofDigitChars_ten_toDigits]

/-- The digits of a positive number begin with one that is not zero. -/
theorem exists_leadingDigit {base number : Nat} (large : 1 < base) (positive : 1 ≤ number) :
    ∃ digit rest, 1 ≤ digit ∧ digit < base ∧
      Nat.toDigits base number = digit.digitChar :: rest := by
  -- The leading digit stays when the last one is taken off.
  induction number using Nat.strong_induction_on with
  | _ number ih =>
    by_cases small : number < base
    · exact ⟨number, [], positive, small, Nat.toDigits_of_lt_base small⟩
    · have reached : base ≤ number := by omega
      obtain ⟨digit, rest, least, bounded, front⟩ := ih (number / base)
        (Nat.div_lt_self (by omega) large) (Nat.div_pos reached (by omega))
      refine ⟨digit, rest ++ [(number % base).digitChar], least, bounded, ?_⟩
      rw [Nat.toDigits_of_base_le large reached, front, List.cons_append]

/-- The digits of a positive number begin with no zero. -/
theorem head?_toDigits {number : Nat} (positive : 1 ≤ number) :
    (Nat.toDigits 10 number).head? ≠ some '0' := by
  -- The leading digit is at least one.
  have large : 1 < 10 := by decide
  obtain ⟨digit, rest, least, -, front⟩ := exists_leadingDigit large positive
  rw [front, List.head?_cons, ne_eq, Option.some.injEq, Nat.digitChar_eq_zero]
  omega

/-- The digits of a number end with its rest of a division by ten. -/
theorem head?_reverse_toDigits (number : Nat) :
    (Nat.toDigits 10 number).reverse.head? = some (number % 10).digitChar := by
  -- A single digit is its own rest.
  by_cases small : number < 10
  · rw [Nat.toDigits_of_lt_base small, Nat.mod_eq_of_lt small]
    rfl
  · rw [Nat.toDigits_of_base_le (by decide) (by omega), List.reverse_append]
    rfl

/-- The last digits of a whole number. -/
def lastDigits : Nat → Nat → List Char
  | 0, _ => []
  | count + 1, number => lastDigits count (number / 10) ++ [(number % 10).digitChar]

/-- A number that has room is filled up to its last digits. -/
theorem paddedNat_eq_lastDigits {count number : Nat} (pos : 1 ≤ count)
    (small : number < tenPow count) : paddedNat count number = lastDigits count number := by
  induction count, pos using Nat.le_induction generalizing number with
  | base =>
    have digit : number < 10 := small
    rw [paddedNat, lastDigits, lastDigits, Nat.toDigits_of_lt_base digit, Nat.mod_eq_of_lt digit]
    rfl
  | succ count pos ih =>
    -- One digit less has room in one place less.
    have bound : number < tenPow count * 10 := small
    have front : paddedNat count (number / 10) = lastDigits count (number / 10) := ih (by omega)
    rw [lastDigits, ← front, paddedNat, paddedNat]
    by_cases digit : number < 10
    · -- The zero of the front is one of those filled up with.
      have zeros : List.replicate (count - 1) '0' ++ ['0'] = List.replicate count '0' := by
        rw [← List.replicate_succ', Nat.sub_add_cancel pos]
      rw [Nat.toDigits_of_lt_base digit, Nat.div_eq_of_lt digit, Nat.toDigits_zero,
        Nat.mod_eq_of_lt digit, List.length_singleton, List.length_singleton, zeros,
        Nat.add_sub_cancel]
    · rw [Nat.toDigits_of_base_le (by decide) (by omega), List.length_append,
        List.length_singleton, Nat.add_sub_add_right, List.append_assoc]

/-- Digits compare as what they stand for. -/
theorem digitChar_lt_iff {m n : Nat} (small : m < 10) (also : n < 10) :
    m.digitChar < n.digitChar ↔ m < n := by
  -- All pairs of digits are compared.
  have each : ∀ a b : Fin 10, a.val.digitChar < b.val.digitChar ↔ a.val < b.val := by decide
  exact each ⟨m, small⟩ ⟨n, also⟩

/-- Digits are the same where they stand for the same. -/
theorem digitChar_inj {m n : Nat} (small : m < 10) (also : n < 10) :
    m.digitChar = n.digitChar ↔ m = n := by
  -- All pairs of digits are compared.
  have each : ∀ a b : Fin 10, a.val.digitChar = b.val.digitChar ↔ a.val = b.val := by decide
  exact each ⟨m, small⟩ ⟨n, also⟩

/-- Texts that begin with numbers of equally many digits compare as the numbers do, and where these
are the same as what stands behind them. -/
theorem lastDigits_append_lt_iff {count m n : Nat} (small : m < tenPow count)
    (also : n < tenPow count) {front back : List Char} :
    lastDigits count m ++ front < lastDigits count n ++ back ↔ m < n ∨ m = n ∧ front < back := by
  induction count generalizing m n front back with
  | zero =>
    have none : m = 0 ∧ n = 0 := ⟨Nat.lt_one_iff.mp small, Nat.lt_one_iff.mp also⟩
    simp [lastDigits, none]
  | succ count ih =>
    -- All digits but the last compare first.
    have fits : m < tenPow count * 10 ∧ n < tenPow count * 10 := ⟨small, also⟩
    have last : m % 10 < 10 ∧ n % 10 < 10 := by omega
    rw [lastDigits, lastDigits, List.append_assoc, List.append_assoc, List.singleton_append,
      List.singleton_append, ih (by omega) (by omega), List.cons_lt_cons_iff,
      digitChar_lt_iff last.1 last.2, digitChar_inj last.1 last.2]
    by_cases behind : front < back
    · simp only [behind, and_true]
      omega
    · simp only [behind, and_false, or_false]
      omega

/-- The last digits are as many as are asked for. -/
@[simp] theorem length_lastDigits (count number : Nat) :
    (lastDigits count number).length = count := by
  -- One digit is taken off at a time.
  induction count generalizing number with
  | zero => rfl
  | succ count ih => rw [lastDigits, List.length_append, ih, List.length_singleton]

/-- Texts that begin with numbers of equally many digits are the same where the numbers are, and
what stands behind them. -/
theorem lastDigits_append_inj {count m n : Nat} (small : m < tenPow count)
    (also : n < tenPow count) {front back : List Char} :
    lastDigits count m ++ front = lastDigits count n ++ back ↔ m = n ∧ front = back := by
  induction count generalizing m n front back with
  | zero =>
    have none : m = 0 ∧ n = 0 := ⟨Nat.lt_one_iff.mp small, Nat.lt_one_iff.mp also⟩
    simp [lastDigits, none]
  | succ count ih =>
    -- The last digit belongs to what stands behind the others.
    have fits : m < tenPow count * 10 ∧ n < tenPow count * 10 := ⟨small, also⟩
    have last : m % 10 < 10 ∧ n % 10 < 10 := by omega
    rw [lastDigits, lastDigits, List.append_assoc, List.append_assoc, List.singleton_append,
      List.singleton_append, ih (by omega) (by omega), List.cons.injEq,
      digitChar_inj last.1 last.2, ← and_assoc]
    exact and_congr_left' (by omega)

/-- Numbers that have room are told apart by their last digits. -/
theorem lastDigits_inj {count m n : Nat} (small : m < tenPow count) (also : n < tenPow count) :
    lastDigits count m = lastDigits count n ↔ m = n := by
  -- Nothing stands behind the digits.
  have same := @lastDigits_append_inj count m n small also [] []
  simpa only [List.append_nil, and_true] using same

/-- A number with as many digits as are asked for is its last digits. -/
theorem toDigits_eq_lastDigits {count number : Nat} (large : tenPow count ≤ number)
    (small : number < tenPow (count + 1)) :
    Nat.toDigits 10 number = lastDigits (count + 1) number := by
  -- The last digit is taken off, and the others are one less.
  induction count generalizing number with
  | zero =>
    have digit : number < 10 := small
    rw [Nat.toDigits_of_lt_base digit, lastDigits, lastDigits, Nat.mod_eq_of_lt digit]
    rfl
  | succ count ih =>
    have bound : number < tenPow (count + 1) * 10 := small
    have least : tenPow count * 10 ≤ number := large
    have positive := tenPow_pos count
    rw [Nat.toDigits_of_base_le (by decide) (by omega), lastDigits, ih (by omega) (by omega)]

end TextTemplate
