/-! Bytes that are not UTF-8 are reported where they first go wrong. -/

namespace TextTemplate

/-- A reason why bytes are not UTF-8. -/
inductive Utf8Fault where
  /-- Some bytes at an index begin no character. -/
  | invalid (length : Nat) (index : Nat)
  /-- The bytes end within a character that begins at an index. -/
  | incomplete (index : Nat)
  deriving DecidableEq, Repr

/-- A fault in words. -/
def Utf8Fault.message : Utf8Fault → String
  | .invalid length index =>
    "invalid utf-8 sequence of " ++ length.repr ++ " bytes from index " ++ index.repr
  | .incomplete index => "incomplete utf-8 byte sequence from index " ++ index.repr

/-- The ranges of the bytes that follow the first byte of a character. -/
def continuations? (first : UInt8) : Option (List (UInt8 × UInt8)) :=
  -- The second byte excludes overlong forms, surrogates and what lies beyond Unicode.
  if first ≤ 0x7F then some []
  else if first < 0xC2 then none
  else if first ≤ 0xDF then some [(0x80, 0xBF)]
  else if first = 0xE0 then some [(0xA0, 0xBF), (0x80, 0xBF)]
  else if first = 0xED then some [(0x80, 0x9F), (0x80, 0xBF)]
  else if first ≤ 0xEF then some [(0x80, 0xBF), (0x80, 0xBF)]
  else if first = 0xF0 then some [(0x90, 0xBF), (0x80, 0xBF), (0x80, 0xBF)]
  else if first ≤ 0xF3 then some [(0x80, 0xBF), (0x80, 0xBF), (0x80, 0xBF)]
  else if first = 0xF4 then some [(0x80, 0x8F), (0x80, 0xBF), (0x80, 0xBF)]
  else none

/-- The first fault of some bytes.

Read so far is everything up to an index where a character began, and some bytes of it, of which
more are expected in given ranges. -/
def utf8FaultFrom? (index taken : Nat) :
    List (UInt8 × UInt8) → List UInt8 → Option Utf8Fault
  | [], [] => none
  | _ :: _, [] => some (.incomplete index)
  | [], first :: bytes =>
    match continuations? first with
    | some expected => utf8FaultFrom? (index + taken) 1 expected bytes
    | none => some (.invalid 1 (index + taken))
  | (low, high) :: expected, byte :: bytes =>
    if low ≤ byte ∧ byte ≤ high then utf8FaultFrom? index (taken + 1) expected bytes
    else some (.invalid taken index)

/-- The first fault of bytes that are not UTF-8. -/
def utf8Fault? (bytes : List UInt8) : Option Utf8Fault :=
  utf8FaultFrom? 0 0 [] bytes

end TextTemplate
