import TextTemplate.Document.Datetime
import TextTemplate.Value.Basic

/-! Documents in TOML serve as arguments. -/

namespace TextTemplate

/-- A document in TOML, which knows dates but no null. -/
inductive Toml where
  | bool (b : Bool)
  | int (n : Int64)
  | float (x : Binary64)
  | string (s : String)
  | datetime (d : Datetime)
  | array (items : List Toml)
  | table (members : List (String × Toml))

namespace Toml

mutual

/-- The value of a document, where the members of a table come in the order of their names. -/
def toValue : Toml → Value
  | .bool b => .bool b
  | .int n => .int n
  | .float x => .float x
  | .string s => .text s
  | .datetime d => .text (.ofList d.write)
  | .array items => .list (itemValues items)
  | .table members => .map (Entries.ofList (memberValues members)).sorted

/-- The values of the items of an array. -/
def itemValues : List Toml → List Value
  | [] => []
  | item :: items => item.toValue :: itemValues items

/-- The values of the members of a table. -/
def memberValues : List (String × Toml) → List (String × Value)
  | [] => []
  | (key, value) :: members => (key, value.toValue) :: memberValues members

end

end Toml

end TextTemplate
