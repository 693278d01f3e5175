import TextTemplate.Json.Writer
import TextTemplate.Number.Text
import TextTemplate.Value.Basic

/-! Values are shown as plain text or dumped as JSON. -/

namespace TextTemplate.Value

/-- The document of a floating point number: an integer where the number is exactly one. -/
def floatJson (x : Binary64) : Json :=
  match x.exactInteger? with
  | some n => .int n
  | none =>
    match x with
    | .finite .. => .float x
    | _ => .null

mutual

/-- The document of a value, in which each deferred value is called where it occurs. -/
def toJson : Value → Calls Json
  | .null => pure .null
  | .bool b => pure (.bool b)
  | .int n => pure (.int n.toInt)
  | .float x => pure (floatJson x)
  | .text s => pure (.string s)
  | .list items => do return .array (← jsonItems items)
  | .map entries => do return .object (← jsonMembers entries)
  | .deferred id early steady => do
    let earlier ← recordCall id
    jsonResult early (toJson steady) earlier

/-- The documents of several values, in order. -/
def jsonItems : List Value → Calls (List Json)
  | [] => pure []
  | item :: items => do
    let json ← toJson item
    return json :: (← jsonItems items)

/-- The documents of named values, in order. -/
def jsonMembers : List (String × Value) → Calls (List (String × Json))
  | [] => pure []
  | (key, value) :: entries => do
    let json ← toJson value
    return (key, json) :: (← jsonMembers entries)

/-- The document of a result by its number, or a last one behind all of them. -/
def jsonResult : List Value → Calls Json → Nat → Calls Json
  | [], steady, _ => steady
  | result :: _, _, 0 => toJson result
  | _ :: results, steady, earlier + 1 => jsonResult results steady earlier

end

mutual

/-- A value as plain text.

Lists show their items between commas, and maps are dumped as JSON. -/
def display : Value → Calls (List Char)
  | .null => pure "null".toList
  | .bool b => pure (toString b).toList
  | .int n => pure (Number.int n).text
  | .float x => pure x.text
  | .text s => pure s.toList
  | .list items => do return [','].intercalate (← displayItems items)
  | .map entries => do return (← toJson (.map entries)).compact
  -- A deferred value is not called to be shown.
  | .deferred .. => pure "function".toList

/-- The texts of several values, in order, where null shows nothing. -/
def displayItems : List Value → Calls (List (List Char))
  | [] => pure []
  | .null :: items => do return [] :: (← displayItems items)
  | item :: items => do
    let shown ← display item
    return shown :: (← displayItems items)

end

/-- A dump in JSON, with an indentation for each level, or on one line with none. -/
def dump (indent : Nat) (value : Value) : Calls (List Char) := do
  return (← value.toJson).write indent 0

end TextTemplate.Value
