import TextTemplate.Json.Basic
import TextTemplate.Number.Shortest

/-! Documents are written in JSON, on one line or with a line for each item. -/

namespace TextTemplate

/-- Numbers in JSON stand in place from a hundred-thousandth up to sixteen digits. -/
def Layout.json : Layout :=
  { tie := .toEven, plainFrom := -5, plainBelow := 16, wholeEnd := ['.', '0'] }

namespace Json

/-- A character as it is written in a string. -/
def escape (c : Char) : List Char :=
  match c with
  | '\x22' => ['\\', '\x22']
  | '\\' => ['\\', '\\']
  | '\x08' => ['\\', 'b']
  | '\x0c' => ['\\', 'f']
  | '\n' => ['\\', 'n']
  | '\r' => ['\\', 'r']
  | '\t' => ['\\', 't']
  | c =>
    if c.toNat < 0x20 then
      ['\\', 'u', '0', '0', Nat.digitChar (c.toNat / 16), Nat.digitChar (c.toNat % 16)]
    else [c]

/-- A text as a string. -/
def writeString (s : String) : List Char :=
  '\x22' :: s.toList.flatMap escape ++ ['\x22']

/-- A floating point number, or null for what JSON has no number for. -/
def writeFloat : Binary64 → List Char
  | .finite negative m =>
    minusSign negative ++ if m.significand = 0 then ['0', '.', '0'] else Layout.json.write m
  | _ => "null".toList

/-- The start of a line at a depth, or nothing when all is written on one line. -/
def lineBreak (indent depth : Nat) : List Char :=
  if indent = 0 then [] else '\n' :: List.replicate (indent * depth) ' '

/-- Parts between brackets, with a comma between two and a line for each. -/
def block (opening closing : Char) (indent depth : Nat) : List (List Char) → List Char
  | [] => [opening, closing]
  | first :: rest =>
    let line := lineBreak indent (depth + 1)
    opening :: line ++ first ++ rest.flatMap (fun part => ',' :: line ++ part) ++
      lineBreak indent depth ++ [closing]

mutual

/-- A document at a depth, with an indentation for each level, or on one line with none. -/
def write (indent depth : Nat) : Json → List Char
  | .null => "null".toList
  | .bool b => (toString b).toList
  | .int n => n.repr.toList
  | .float x => writeFloat x
  | .string s => writeString s
  | .array items => block '[' ']' indent depth (writeItems indent depth items)
  | .object members => block '\x7b' '\x7d' indent depth (writeMembers indent depth members)

/-- The items of an array. -/
def writeItems (indent depth : Nat) : List Json → List (List Char)
  | [] => []
  | item :: items => write indent (depth + 1) item :: writeItems indent depth items

/-- The members of an object with their names. -/
def writeMembers (indent depth : Nat) : List (String × Json) → List (List Char)
  | [] => []
  | (key, value) :: members =>
    (writeString key ++ (if indent = 0 then [':'] else [':', ' ']) ++
      write indent (depth + 1) value) :: writeMembers indent depth members

end

/-- A document on one line. -/
def compact (json : Json) : List Char :=
  json.write 0 0

end Json

end TextTemplate
