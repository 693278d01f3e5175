import TextTemplate.Json.Basic
import TextTemplate.Number.Literal

/-! Documents are read from JSON. -/

namespace TextTemplate.Json

/-- Whether a character may stand between tokens. -/
def isSpace (c : Char) : Bool :=
  c = ' ' || c = '\t' || c = '\n' || c = '\r'

/-- A text without the spaces at its start. -/
def skip (cs : List Char) : List Char :=
  cs.dropWhile isSpace

/-- The value of a hexadecimal digit. -/
def hexDigit? (c : Char) : Option Nat :=
  if c.isDigit then some (c.toNat - '0'.toNat)
  else if 'a' ≤ c ∧ c ≤ 'f' then some (c.toNat - 'a'.toNat + 10)
  else if 'A' ≤ c ∧ c ≤ 'F' then some (c.toNat - 'A'.toNat + 10)
  else none

/-- Reads four hexadecimal digits. -/
def readUnit? : List Char → Option (Nat × List Char)
  | a :: b :: c :: d :: rest => do
    let digits ← [a, b, c, d].mapM hexDigit?
    return (digits.foldl (16 * · + ·) 0, rest)
  | _ => none

/-- The character that a code point stands for. -/
def charOfCode? (code : Nat) : Option Char :=
  if valid : code.isValidChar then some (Char.ofNatAux code valid) else none

/-- Reads what follows a backslash. -/
def readEscape? : List Char → Option (Char × List Char)
  | '\x22' :: rest => some ('\x22', rest)
  | '\\' :: rest => some ('\\', rest)
  | '/' :: rest => some ('/', rest)
  | 'b' :: rest => some ('\x08', rest)
  | 'f' :: rest => some ('\x0c', rest)
  | 'n' :: rest => some ('\n', rest)
  | 'r' :: rest => some ('\r', rest)
  | 't' :: rest => some ('\t', rest)
  | 'u' :: rest => do
    let (unit, rest) ← readUnit? rest
    if 0xD800 ≤ unit ∧ unit < 0xDC00 then
      -- A high surrogate needs a low one behind it.
      match rest with
      | '\\' :: 'u' :: rest =>
        let (low, rest) ← readUnit? rest
        guard (0xDC00 ≤ low ∧ low < 0xE000)
        let c ← charOfCode? (0x10000 + (unit - 0xD800) * 0x400 + (low - 0xDC00))
        return (c, rest)
      | _ => none
    else
      let c ← charOfCode? unit
      return (c, rest)
  | _ => none

/-- Reads the characters of a string up to its closing quote. -/
def readString? : Nat → List Char → Option (List Char × List Char)
  | _ + 1, '\x22' :: rest => some ([], rest)
  | fuel + 1, '\\' :: rest => do
    let (c, rest) ← readEscape? rest
    let (cs, rest) ← readString? fuel rest
    return (c :: cs, rest)
  | fuel + 1, c :: rest => do
    guard (0x20 ≤ c.toNat)
    let (cs, rest) ← readString? fuel rest
    return (c :: cs, rest)
  | _, _ => none

/-- Whether a character can stand in a number. -/
def isNumberChar (c : Char) : Bool :=
  c.isDigit || c = '-' || c = '+' || c = '.' || c = 'e' || c = 'E'

/-- Whether digits write a whole number without needless zeros. -/
def isWhole : List Char → Bool
  | [] => false
  | ['0'] => true
  | c :: cs => c ≠ '0' && (c :: cs).all Char.isDigit

/-- Whether a text is a number of JSON behind its sign. -/
def isNumber (cs : List Char) : Bool :=
  let digits := cs.takeWhile Char.isDigit
  let rest := cs.dropWhile Char.isDigit
  isWhole digits &&
    match rest with
    | '.' :: c :: _ => c.isDigit
    | '.' :: [] => false
    | _ => true

/-- The document of a number: an integer when it is written as one and 64 bits hold it. -/
def ofNumber? (cs : List Char) : Option Json := do
  let magnitude := if cs.head? = some '-' then cs.drop 1 else cs
  guard (isNumber magnitude)
  let literal ← Literal.read? cs
  let n := signedInt literal.negative literal.digits
  if magnitude.all Char.isDigit ∧ Int64.minValue.toInt ≤ n ∧ n < UInt64.size ∧
      cs ≠ ['-', '0'] then
    return .int n
  else
    guard literal.toBinary64.isFinite
    return .float literal.toBinary64

mutual

/-- Reads a document from the start of a text. -/
def readValue? : Nat → List Char → Option (Json × List Char)
  | 0, _ => none
  | fuel + 1, cs =>
    match skip cs with
    | 'n' :: 'u' :: 'l' :: 'l' :: rest => some (.null, rest)
    | 't' :: 'r' :: 'u' :: 'e' :: rest => some (.bool true, rest)
    | 'f' :: 'a' :: 'l' :: 's' :: 'e' :: rest => some (.bool false, rest)
    | '\x22' :: rest => do
      let (text, rest) ← readString? (rest.length + 1) rest
      return (.string (.ofList text), rest)
    | '[' :: rest =>
      match skip rest with
      | ']' :: rest => some (.array [], rest)
      | rest => do
        let (items, rest) ← readItems? fuel rest
        return (.array items, rest)
    | '\x7b' :: rest =>
      match skip rest with
      | '\x7d' :: rest => some (.object [], rest)
      | rest => do
        let (members, rest) ← readMembers? fuel rest
        return (.object members, rest)
    | cs => do
      let json ← ofNumber? (cs.takeWhile isNumberChar)
      return (json, cs.dropWhile isNumberChar)

/-- Reads the items of an array up to its closing bracket. -/
def readItems? : Nat → List Char → Option (List Json × List Char)
  | 0, _ => none
  | fuel + 1, cs => do
    let (item, rest) ← readValue? fuel cs
    match skip rest with
    | ',' :: rest =>
      let (items, rest) ← readItems? fuel rest
      return (item :: items, rest)
    | ']' :: rest => return ([item], rest)
    | _ => none

/-- Reads the members of an object up to its closing bracket. -/
def readMembers? : Nat → List Char → Option (List (String × Json) × List Char)
  | 0, _ => none
  | fuel + 1, cs =>
    match skip cs with
    | '\x22' :: rest => do
      let (key, rest) ← readString? (rest.length + 1) rest
      match skip rest with
      | ':' :: rest =>
        let (value, rest) ← readValue? fuel rest
        match skip rest with
        | ',' :: rest =>
          let (members, rest) ← readMembers? fuel rest
          return ((.ofList key, value) :: members, rest)
        | '\x7d' :: rest => return ([(.ofList key, value)], rest)
        | _ => none
      | _ => none
    | _ => none

end

/-- Reads a whole text as one document. -/
def parse? (text : String) : Option Json := do
  -- Every step takes a character, so the length bounds the steps.
  let (json, rest) ← readValue? (2 * text.length + 1) text.toList
  guard (skip rest = [])
  return json

end TextTemplate.Json
