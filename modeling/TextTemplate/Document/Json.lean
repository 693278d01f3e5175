import TextTemplate.Json.Basic
import TextTemplate.Value.Basic

/-! Documents in JSON serve as arguments. -/

namespace TextTemplate.Json

/-- The value of an integer, which is rounded where 64 bits with a sign do not hold it. -/
def integerValue (n : Int) : Value :=
  match int64? n with
  | some n => .int n
  | none => .float (.ofInt n)

mutual

/-- The value of a document, where the members of an object come in the order of their names. -/
def toValue : Json → Value
  | .null => .null
  | .bool b => .bool b
  | .int n => integerValue n
  | .float x => .float x
  | .string s => .text s
  | .array items => .list (itemValues items)
  | .object members => .map (Entries.ofList (memberValues members)).sorted

/-- The values of the items of an array. -/
def itemValues : List Json → List Value
  | [] => []
  | item :: items => item.toValue :: itemValues items

/-- The values of the members of an object. -/
def memberValues : List (String × Json) → List (String × Value)
  | [] => []
  | (key, value) :: members => (key, value.toValue) :: memberValues members

end

end TextTemplate.Json
