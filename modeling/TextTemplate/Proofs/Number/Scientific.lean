import Mathlib.Data.List.TakeWhile
import Mathlib.Data.Nat.Factorization.Basic
import TextTemplate.Proofs.Number.Digits
import TextTemplate.Proofs.Number.Ratio

/-! Zeros at the end of a whole number are taken off and put back. -/

namespace TextTemplate

/-- Multiplying by a power of ten puts zeros behind the digits. -/
theorem toDigits_mul_tenPow {n : Nat} (positive : 0 < n) (zeros : Nat) :
    Nat.toDigits 10 (n * tenPow zeros) = Nat.toDigits 10 n ++ List.replicate zeros '0' := by
  induction zeros with
  | zero =>
    rw [List.replicate_zero, List.append_nil]
    exact congrArg (Nat.toDigits 10) (Nat.mul_one n)
  | succ zeros ih =>
    -- One more factor of ten is one more digit, and it is zero.
    have more : n * tenPow (zeros + 1) = 10 * (n * tenPow zeros) + 0 := by
      rw [show tenPow (zeros + 1) = tenPow zeros * 10 from rfl]
      ring
    rw [more, ← Nat.toDigits_append_toDigits (by decide)
      (Nat.mul_pos positive (tenPow_pos zeros)) (by decide), ih, Nat.toDigits_zero,
      List.replicate_succ', List.append_assoc]

/-- Characters are what is left without the zeros at their end, and those zeros. -/
theorem exists_zeros (digits : List Char) :
    ∃ zeros, digits =
      (digits.reverse.dropWhile (· = '0')).reverse ++ List.replicate zeros '0' := by
  refine ⟨(digits.reverse.takeWhile (· = '0')).length, ?_⟩
  -- What is taken off holds zeros only, so it reads the same from both ends.
  have zeros : digits.reverse.takeWhile (· = '0') =
      List.replicate (digits.reverse.takeWhile (· = '0')).length '0' :=
    List.eq_replicate_iff.mpr ⟨rfl, fun c member => by simpa using List.mem_takeWhile_imp member⟩
  rw [← List.reverse_inj, List.reverse_append, List.reverse_reverse, List.reverse_replicate,
    ← zeros, List.takeWhile_append_dropWhile]

namespace Scientific

/-- Zeros at the end of the digits do not count once they are taken off. -/
theorem trimmed_ofScaled_mul {n : Nat} (positive : 0 < n) (zeros : Nat) (places : Int) :
    (ofScaled (n * tenPow zeros) (places + zeros)).trimmed = (ofScaled n places).trimmed := by
  have inside : ∀ c ∈ List.replicate zeros '0', decide (c = '0') = true := by
    intro c member
    simp [List.eq_of_mem_replicate member]
  simp only [ofScaled, trimmed, digitCount, toDigits_mul_tenPow positive, List.reverse_append,
    List.reverse_replicate, List.dropWhile_append_of_pos inside, List.length_append,
    List.length_replicate, mk.injEq, true_and]
  -- The first digit stands for the same power of ten.
  push_cast
  ring

/-- Digits that end in no zero are left as they are. -/
theorem trimmed_ofScaled {n : Nat} (last : n % 10 ≠ 0) (places : Int) :
    (ofScaled n places).trimmed = ofScaled n places := by
  -- The last digit is no zero, so that nothing is dropped.
  obtain ⟨rest, digits⟩ := List.head?_eq_some_iff.mp (head?_reverse_toDigits n)
  have stops : ¬ (n % 10).digitChar = '0' := fun zero => last (Nat.digitChar_eq_zero.mp zero)
  simp only [ofScaled, trimmed, mk.injEq, and_true]
  rw [digits, List.dropWhile_cons_of_neg (by simpa using stops), ← digits, List.reverse_reverse]

/-- A positive number without the zeros at its end is one that ends in none. -/
theorem exists_trimmed {n : Nat} (positive : 0 < n) (places : Int) :
    ∃ front zeros, n = front * tenPow zeros ∧ front % 10 ≠ 0 ∧
      (ofScaled n places).trimmed = ofScaled front (places - zeros) := by
  -- All factors of ten are split off.
  obtain ⟨zeros, front, last, split⟩ :=
    Nat.exists_eq_pow_mul_and_not_dvd positive.ne' 10 (by decide)
  rw [Nat.dvd_iff_mod_eq_zero] at last
  have some : 0 < front := by omega
  have shown := trimmed_ofScaled_mul some zeros (places - zeros)
  rw [Int.sub_add_cancel, trimmed_ofScaled last] at shown
  rw [mul_comm] at split
  exact ⟨front, zeros, split, last, split ▸ shown⟩

/-- Digits that reach no further than their power of ten are filled up with zeros. -/
theorem plain_whole {s : Scientific} {exponent : Nat} (shown : s.exponent = exponent)
    (fits : s.digits.length ≤ exponent + 1) :
    s.plain = s.digits ++ List.replicate (exponent + 1 - s.digits.length) '0' := by
  obtain ⟨digits, _⟩ := s
  subst shown
  exact if_pos fits

/-- The digits of a whole number without the zeros at their end are put back in their places. -/
theorem plain_trimmed (n : Nat) : (ofScaled n 0).trimmed.plain = Nat.toDigits 10 n := by
  have some : 0 < (Nat.toDigits 10 n).length := Nat.length_toDigits_pos
  obtain ⟨zeros, split⟩ := exists_zeros (Nat.toDigits 10 n)
  have length := congrArg List.length split
  rw [List.length_append, List.length_replicate] at length
  have exponent : (ofScaled n 0).trimmed.exponent = ((Nat.toDigits 10 n).length - 1 : Nat) := by
    simp only [ofScaled, trimmed, digitCount]
    omega
  -- As many zeros are missing as were taken off.
  rw [plain_whole exponent (by simp only [ofScaled, trimmed]; omega)]
  simp only [ofScaled, trimmed]
  rw [Nat.sub_add_cancel some, length, Nat.add_sub_cancel_left, ← split]

end Scientific

end TextTemplate
