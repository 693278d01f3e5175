/-! Places in a text are counted in bytes of UTF-8. -/

namespace TextTemplate

/-- The number of bytes that characters take in UTF-8. -/
def byteLength : List Char → Nat
  | [] => 0
  | c :: cs => c.utf8Size + byteLength cs

/-- Splits a text at a byte offset, if the offset lies between two of its characters. -/
def splitAtByte? : Nat → List Char → Option (List Char × List Char)
  | 0, cs => some ([], cs)
  | _ + 1, [] => none
  | offset + 1, c :: cs =>
    if offset + 1 < c.utf8Size then none
    else (splitAtByte? (offset + 1 - c.utf8Size) cs).map fun (front, back) => (c :: front, back)

/-- The part of a text from one byte offset to another.

There is none unless both offsets lie between characters, the first not behind the second. -/
def slice? (start stop : Nat) (cs : List Char) : Option (List Char) := do
  let (front, _) ← splitAtByte? stop cs
  let (_, inside) ← splitAtByte? start front
  return inside

end TextTemplate
