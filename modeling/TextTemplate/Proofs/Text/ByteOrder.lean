import Mathlib.Tactic.SplitIfs

/-! Texts are in the same order as their bytes in UTF-8. -/

namespace TextTemplate

/-- The bytes of a text in UTF-8. -/
def utf8 (text : String) : List UInt8 :=
  text.toUTF8.data.toList

/-- The bytes of a text are those of its characters, one after the other. -/
theorem utf8_eq (text : String) : utf8 text = text.toList.flatMap String.utf8EncodeChar := by
  conv => lhs; rw [← String.ofList_toList (s := text)]
  rw [utf8, String.toUTF8_eq_toByteArray, String.toByteArray_ofList, List.utf8Encode,
    List.toList_data_toByteArray]

/-- The first digit in which two numbers differ tells the lesser one. -/
theorem digits_lt {m n : Nat} (less : m < n) :
    m / 262144 < n / 262144 ∨ m / 262144 = n / 262144 ∧
      (m / 4096 % 64 < n / 4096 % 64 ∨ m / 4096 % 64 = n / 4096 % 64 ∧
        (m / 64 % 64 < n / 64 % 64 ∨ m / 64 % 64 = n / 64 % 64 ∧ m % 64 < n % 64)) := by
  omega

/-- The bytes of a lesser character come first, whatever stands behind both. -/
theorem utf8EncodeChar_lt {c d : Char} (less : c < d) (front back : List UInt8) :
    String.utf8EncodeChar c ++ front < String.utf8EncodeChar d ++ back := by
  have less : c.val.toNat < d.val.toNat := less
  have top : d.val.toNat < 0x110000 := by
    rcases d.valid with low | ⟨_, high⟩
    · omega
    · exact high
  have digits := digits_lt less
  unfold String.utf8EncodeChar
  generalize c.val.toNat = m at *
  generalize d.val.toNat = n at *
  -- A longer form begins with a greater byte, and forms of one length compare digit by digit.
  simp only
  split_ifs
  all_goals
    simp only [List.cons_append, List.nil_append, List.cons_lt_cons_iff, UInt8.lt_iff_toNat_lt,
      ← UInt8.toNat_inj, UInt8.toNat_ofNat']
    -- Every byte is in range, so the remainders that the types take do nothing.
    simp (disch := omega) only [Nat.mod_eq_of_lt]
    omega

/-- The bytes of a lesser row of characters come first. -/
theorem flatMap_utf8EncodeChar_lt {front back : List Char} (less : front < back) :
    front.flatMap String.utf8EncodeChar < back.flatMap String.utf8EncodeChar := by
  induction front generalizing back with
  | nil =>
    cases back with
    | nil => cases less
    | cons d back =>
      -- No character is written in no bytes.
      have bytes := String.length_utf8EncodeChar d
      have positive := d.utf8Size_pos
      obtain ⟨byte, rest, split⟩ :=
        List.exists_cons_of_length_pos (l := String.utf8EncodeChar d) (by omega)
      rw [List.flatMap_cons, split, List.flatMap_nil]
      exact List.nil_lt_cons _ _
  | cons c front ih =>
    cases back with
    | nil => cases less
    | cons d back =>
      rw [List.flatMap_cons, List.flatMap_cons]
      rcases List.cons_lt_cons_iff.mp less with first | ⟨rfl, rest⟩
      · exact utf8EncodeChar_lt first _ _
      · exact List.append_left_lt (ih rest)

/-- Texts compare as their bytes do. -/
theorem utf8_lt_iff {left right : String} : utf8 left < utf8 right ↔ left < right := by
  have mono : ∀ {front back : String}, front < back → utf8 front < utf8 back := by
    intro front back less
    rw [utf8_eq, utf8_eq]
    exact flatMap_utf8EncodeChar_lt less
  refine ⟨fun bytes => ?_, mono⟩
  refine Decidable.byContradiction fun other => ?_
  -- Otherwise the bytes would be in the other order, or the texts would be the same.
  by_cases greater : right < left
  · exact List.lt_asymm bytes (mono greater)
  · have same := String.le_antisymm (String.not_lt.mp greater) (String.not_lt.mp other)
    rw [same] at bytes
    exact List.lt_irrefl _ bytes

end TextTemplate
