import TextTemplate.Text.Offset

/-! Byte counts of characters add up and separate the fronts of a text. -/

namespace TextTemplate

/-- Characters one after the other take the bytes of both. -/
@[simp] theorem byteLength_append (front back : List Char) :
    byteLength (front ++ back) = byteLength front + byteLength back := by
  -- Each character of the front adds its own bytes.
  induction front with
  | nil => simp [byteLength]
  | cons c front ih =>
    simp only [List.cons_append, byteLength, ih]
    omega

/-- No character is written in no bytes. -/
theorem byteLength_pos {cs : List Char} (nonempty : cs ≠ []) : 0 < byteLength cs := by
  -- The first character already takes one.
  cases cs with
  | nil => contradiction
  | cons c cs =>
    have positive := c.utf8Size_pos
    simp only [byteLength]
    omega

/-- Characters count as many bytes as the text made of them. -/
theorem utf8ByteSize_ofList (cs : List Char) :
    (String.ofList cs).utf8ByteSize = byteLength cs := by
  -- A text grows by one character at a time, as the characters do.
  induction cs with
  | nil => rfl
  | cons c cs ih => rw [String.ofList_cons, String.utf8ByteSize_append,
      String.utf8ByteSize_singleton, ih, byteLength]

/-- A text counts as many bytes as its characters. -/
theorem byteLength_toList (text : String) : byteLength text.toList = text.utf8ByteSize := by
  rw [← utf8ByteSize_ofList, String.ofList_toList]

/-- Two splits of one text with fronts of equally many bytes are the same split. -/
theorem append_eq_append_of_byteLength {front front' back back' : List Char}
    (whole : front ++ back = front' ++ back') (size : byteLength front = byteLength front') :
    front = front' ∧ back = back' := by
  -- A front that goes on beyond the other would have more bytes.
  induction front generalizing front' with
  | nil =>
    cases front' with
    | nil => exact ⟨rfl, whole⟩
    | cons c front' =>
      have positive := byteLength_pos (List.cons_ne_nil c front')
      rw [← size, byteLength] at positive
      omega
  | cons c front ih =>
    cases front' with
    | nil =>
      have positive := byteLength_pos (List.cons_ne_nil c front)
      rw [size, byteLength] at positive
      omega
    | cons d front' =>
      -- Both fronts begin with the same character, so what is left has equal sizes too.
      simp only [List.cons_append, List.cons.injEq] at whole
      obtain ⟨rfl, whole⟩ := whole
      simp only [byteLength, Nat.add_left_cancel_iff] at size
      obtain ⟨rfl, rfl⟩ := ih whole size
      exact ⟨rfl, rfl⟩

/-- The offset behind a front of a text lies between two characters. -/
theorem isValid_byteLength {text : String} {front back : List Char}
    (whole : text.toList = front ++ back) :
    String.Pos.Raw.IsValid text ⟨byteLength front⟩ := by
  -- The front and the back are texts whose concatenation is the whole.
  refine String.Pos.Raw.isValid_iff_exists_append.mpr
    ⟨String.ofList front, String.ofList back, ?_, ?_⟩
  · rw [← String.ofList_append, ← whole, String.ofList_toList]
  · rw [← utf8ByteSize_ofList]
    rfl

/-- Characters take as many bytes in any order. -/
theorem byteLength_reverse (cs : List Char) : byteLength cs.reverse = byteLength cs := by
  -- Each character takes its bytes wherever it stands.
  induction cs with
  | nil => rfl
  | cons c cs ih =>
    rw [List.reverse_cons, byteLength_append, ih, byteLength, byteLength, byteLength]
    omega

/-- A text is split at an offset exactly into a front of that many bytes and what is behind it. -/
theorem splitAtByte?_eq_some_iff {offset : Nat} {cs front back : List Char} :
    splitAtByte? offset cs = some (front, back) ↔
      cs = front ++ back ∧ offset = byteLength front := by
  constructor
  · intro split
    fun_induction splitAtByte? offset cs generalizing front with
    | case1 cs =>
      cases split
      exact ⟨rfl, rfl⟩
    | case2 => cases split
    | case3 => cases split
    | case4 offset c cs inside ih =>
      -- The first character is part of the front, and the rest is split in turn.
      obtain ⟨⟨rest, _⟩, splits, same⟩ := Option.map_eq_some_iff.mp split
      cases same
      obtain ⟨rfl, size⟩ := ih splits
      exact ⟨rfl, by rw [byteLength]; omega⟩
  · rintro ⟨rfl, rfl⟩
    induction front with
    | nil => cases back <;> rfl
    | cons c front ih =>
      obtain ⟨more, size⟩ := Nat.exists_eq_add_of_le' (byteLength_pos (List.cons_ne_nil c front))
      have fits : ¬more + 1 < c.utf8Size := by
        rw [← size, byteLength]
        omega
      have rest : more + 1 - c.utf8Size = byteLength front := by
        rw [← size, byteLength]
        omega
      rw [size, List.cons_append, splitAtByte?, if_neg fits, rest, ih]
      rfl

/-- The part of a text behind a front is cut out from where the front ends to where both do. -/
theorem slice?_byteLength (front inside back : List Char) :
    slice? (byteLength front) (byteLength front + byteLength inside) (front ++ (inside ++ back)) =
      some inside := by
  -- The text is split behind the part first, and then in front of it.
  have outer : splitAtByte? (byteLength front + byteLength inside) (front ++ (inside ++ back)) =
      some (front ++ inside, back) :=
    splitAtByte?_eq_some_iff.mpr ⟨(List.append_assoc ..).symm, (byteLength_append ..).symm⟩
  have inner : splitAtByte? (byteLength front) (front ++ inside) = some (front, inside) :=
    splitAtByte?_eq_some_iff.mpr ⟨rfl, rfl⟩
  simp [slice?, outer, inner]

end TextTemplate
