import TextTemplate.Text.CodePoints

/-! White space around a text carries no meaning. -/

namespace TextTemplate

/-- Characters with the property White_Space. -/
def whiteSpace : CodePoints :=
  ⟨[(0x0009, 0x000D), (0x0020, 0x0020), (0x0085, 0x0085), (0x00A0, 0x00A0), (0x1680, 0x1680),
    (0x2000, 0x200A), (0x2028, 0x2029), (0x202F, 0x202F), (0x205F, 0x205F), (0x3000, 0x3000)]⟩

/-- Whether a character is white space. -/
def isBlank (c : Char) : Bool :=
  whiteSpace.has c

/-- A text without the white space at its two ends. -/
def trim (cs : List Char) : List Char :=
  -- The front is dropped first, then the back of what is left.
  ((cs.dropWhile isBlank).reverse.dropWhile isBlank).reverse

end TextTemplate
