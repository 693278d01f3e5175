import TextTemplate.Number.Text
import TextTemplate.Proofs.Number.Digits

/-! Digits are read in any base by their places in an alphabet, and read back the number that they
are written for. -/

namespace TextTemplate

/-- The number that digits make up behind higher ones, each counting by its place in an alphabet. -/
def digitsBehind? (alphabet : List Char) (high : Nat) (cs : List Char) : Option Nat :=
  cs.foldlM (fun high c => (alphabet.idxOf? c).map (alphabet.length * high + ·)) high

/-- Reads a whole text as one digit or more of an alphabet. -/
def readNatural? (alphabet cs : List Char) : Option Nat :=
  if cs = [] then none else digitsBehind? alphabet 0 cs

/-- Digits of an alphabet are those of a number, without zeros in front of them. -/
structure ShowsNatural (alphabet digits : List Char) (n : Nat) : Prop where
  read : readNatural? alphabet digits = some n
  leading : digits.head? = some '0' → digits = ['0']

/-- Reads a whole text as digits of an alphabet, with a minus in front where there is one. -/
def readSigned? (alphabet : List Char) : List Char → Option Int
  | '-' :: cs => (readNatural? alphabet cs).map (signedInt true)
  | cs => (readNatural? alphabet cs).map (signedInt false)

/-- Digits show no other number than the one that they show. -/
theorem ShowsNatural.iff_eq {alphabet digits : List Char} {n other : Nat}
    (shows : ShowsNatural alphabet digits n) : ShowsNatural alphabet digits other ↔ n = other := by
  -- Digits are read as one number.
  constructor
  · intro again
    exact Option.some.inj (shows.read.symm.trans again.read)
  · rintro rfl
    exact shows

/-- An alphabet has the digits of a base from zero on, spelled in letters of its own, and no
minus. -/
structure IsAlphabet (alphabet : List Char) (letter : Char → Char) : Prop where
  large : 1 < alphabet.length
  zero : alphabet.idxOf? '0' = some 0
  digit : ∀ n < alphabet.length, alphabet.idxOf? (letter n.digitChar) = some n
  minus : alphabet.idxOf? '-' = none

namespace IsAlphabet

variable {alphabet : List Char} {letter : Char → Char}

/-- The digits of a number are read back as the number. -/
theorem digitsBehind?_toDigits (valid : IsAlphabet alphabet letter) (n : Nat) :
    digitsBehind? alphabet 0 ((Nat.toDigits alphabet.length n).map letter) = some n := by
  -- The last digit is read behind all others.
  induction n using Nat.strong_induction_on with
  | _ n ih =>
    have large := valid.large
    by_cases small : n < alphabet.length
    · rw [Nat.toDigits_of_lt_base small]
      simp [digitsBehind?, valid.digit n small]
    · have rest : n % alphabet.length < alphabet.length := Nat.mod_lt n (by omega)
      have front := ih (n / alphabet.length) (Nat.div_lt_self (by omega) large)
      rw [digitsBehind?] at front
      rw [Nat.toDigits_of_base_le large (by omega), List.map_append, digitsBehind?,
        List.foldlM_append, front]
      simp [valid.digit _ rest, Nat.div_add_mod]

/-- Zeros in front of other digits do not count. -/
theorem digitsBehind?_zeros (valid : IsAlphabet alphabet letter) (zeros : Nat) (cs : List Char) :
    digitsBehind? alphabet 0 (List.replicate zeros '0' ++ cs) = digitsBehind? alphabet 0 cs := by
  induction zeros with
  | zero => rfl
  | succ zeros ih =>
    -- Behind a zero nothing has been read yet, as at the start.
    rw [List.replicate_succ, List.cons_append, digitsBehind?, List.foldlM_cons, valid.zero]
    exact ih

/-- A minus is no digit, wherever it stands. -/
theorem digitsBehind?_minus (valid : IsAlphabet alphabet letter) (front back : List Char) :
    digitsBehind? alphabet 0 (front ++ '-' :: back) = none := by
  rw [digitsBehind?, List.foldlM_append]
  -- Reading stops in front of the minus or at it.
  cases front.foldlM (fun high c => (alphabet.idxOf? c).map (alphabet.length * high + ·)) 0 with
  | none => rfl
  | some high => simp [valid.minus]

/-- The digits of a number are read back, with zeros in front or without. -/
theorem readNatural?_toDigits (valid : IsAlphabet alphabet letter) (zeros n : Nat) :
    readNatural? alphabet
      (List.replicate zeros '0' ++ (Nat.toDigits alphabet.length n).map letter) = some n := by
  have digits : (Nat.toDigits alphabet.length n).map letter ≠ [] := by simp
  rw [readNatural?, if_neg (List.append_ne_nil_of_right_ne_nil _ digits), valid.digitsBehind?_zeros,
    valid.digitsBehind?_toDigits]

/-- What is read in an alphabet is made of its digits. -/
theorem mem_of_digitsBehind? {cs : List Char} {high n : Nat}
    (read : digitsBehind? alphabet high cs = some n) : ∀ c ∈ cs, c ∈ alphabet := by
  induction cs generalizing high with
  | nil => exact nofun
  | cons c cs ih =>
    rw [digitsBehind?, List.foldlM_cons] at read
    -- The first digit has a place, and the others are read behind it.
    cases place : alphabet.idxOf? c with
    | none => simp [place] at read
    | some index =>
      simp only [place, Option.map_some, Option.bind_eq_bind, Option.bind_some] at read
      have inside : c ∈ alphabet := by
        refine Decidable.byContradiction fun outside => ?_
        rw [List.idxOf?_eq_none_iff.mpr outside] at place
        contradiction
      exact List.forall_mem_cons.mpr ⟨inside, ih read⟩

/-- The digits of a number are digits of the alphabet. -/
theorem mem_toDigits (valid : IsAlphabet alphabet letter) (n : Nat) :
    ∀ c ∈ (Nat.toDigits alphabet.length n).map letter, c ∈ alphabet :=
  mem_of_digitsBehind? (valid.digitsBehind?_toDigits n)

/-- Behind a minus, digits are read as a negative number. -/
theorem readSigned?_minus (cs : List Char) :
    readSigned? alphabet ('-' :: cs) = (readNatural? alphabet cs).map (signedInt true) := rfl

/-- Without a minus in front, digits are read as they are. -/
theorem readSigned?_unsigned {cs : List Char} (unsigned : cs.head? ≠ some '-') :
    readSigned? alphabet cs = (readNatural? alphabet cs).map (signedInt false) := by
  -- Only a minus has a case of its own.
  unfold readSigned?
  split
  · exact absurd rfl unsigned
  · rfl

/-- The digits of an integer behind its sign are read back as the integer, unless zeros stand in
front of a minus. -/
theorem readSigned?_toDigits (valid : IsAlphabet alphabet letter) (zeros : Nat) (n : Int) :
    readSigned? alphabet (List.replicate zeros '0' ++ (minusSign (n < 0) ++
      (Nat.toDigits alphabet.length n.natAbs).map letter)) =
        if n < 0 ∧ 0 < zeros then none else some n := by
  have digits := valid.readNatural?_toDigits zeros n.natAbs
  by_cases negative : n < 0
  · simp only [minusSign, negative, decide_true, if_true, true_and, List.singleton_append]
    cases zeros with
    | zero =>
      -- The minus is the first character, and the digits are all that follows.
      have value : signedInt true n.natAbs = n := by
        simp only [signedInt, if_true]
        omega
      rw [List.replicate_zero, List.nil_append] at digits ⊢
      rw [readSigned?_minus, digits, Option.map_some, value, if_neg (Nat.lt_irrefl 0)]
    | succ zeros =>
      -- The first character is a zero, and the minus stands among what is read as digits.
      have first : (List.replicate (zeros + 1) '0' ++ '-' ::
          (Nat.toDigits alphabet.length n.natAbs).map letter).head? ≠ some '-' := by
        simp [List.replicate_succ]
      rw [readSigned?_unsigned first, readNatural?, if_neg (by simp), valid.digitsBehind?_minus,
        Option.map_none, if_pos (Nat.succ_pos zeros)]
  · have value : signedInt false n.natAbs = n := by
      simp only [signedInt, Bool.false_eq_true, if_false]
      omega
    simp only [minusSign, negative, decide_false, Bool.false_eq_true, if_false, false_and,
      List.nil_append]
    have first : (List.replicate zeros '0' ++
        (Nat.toDigits alphabet.length n.natAbs).map letter).head? ≠ some '-' := by
      intro leads
      -- All characters are digits of the alphabet, and a minus is none.
      rcases List.mem_append.mp (List.mem_of_mem_head? leads) with filled | inside
      · exact absurd (List.eq_of_mem_replicate filled) (by decide)
      · exact List.idxOf?_eq_none_iff.mp valid.minus (valid.mem_toDigits _ _ inside)
    rw [readSigned?_unsigned first, digits, Option.map_some, value]

/-- The digits of a number begin with a zero only where they are a single zero. -/
theorem eq_zero_of_leading (valid : IsAlphabet alphabet letter) {n : Nat}
    (zero : ((Nat.toDigits alphabet.length n).map letter).head? = some '0') :
    (Nat.toDigits alphabet.length n).map letter = ['0'] := by
  rcases Nat.eq_zero_or_pos n with rfl | positive
  · rw [Nat.toDigits_zero] at zero ⊢
    simpa using zero
  · obtain ⟨digit, rest, least, bounded, front⟩ := exists_leadingDigit valid.large positive
    -- The leading digit has a place of its own, which is not that of zero.
    rw [front, List.map_cons, List.head?_cons, Option.some.injEq] at zero
    have place := valid.digit digit bounded
    rw [zero, valid.zero, Option.some.injEq] at place
    omega

/-- The digits of a number show it. -/
theorem showsNatural (valid : IsAlphabet alphabet letter) (n : Nat) :
    ShowsNatural alphabet ((Nat.toDigits alphabet.length n).map letter) n :=
  ⟨valid.readNatural?_toDigits 0 n, valid.eq_zero_of_leading⟩

end IsAlphabet

end TextTemplate
