import TextTemplate.Entries
import TextTemplate.Number.Reader
import TextTemplate.Text.Blank
import TextTemplate.Value.Calls
import TextTemplate.Value.Kind
import TextTemplate.Value.Path

/-! Arguments are values of seven kinds, some of which hold others. -/

namespace TextTemplate

/-- An argument of a template. -/
inductive Value where
  | null
  | bool (b : Bool)
  | int (n : Int64)
  | float (x : Binary64)
  | text (s : String)
  | list (items : List Value)
  /-- Named values in order. -/
  | map (entries : List (String × Value))
  /-- A value that is known once it is called: early results in turn, and then a steady one. -/
  | deferred (id : Nat) (early : List Value) (steady : Value)

namespace Value

/-- The kind of a value. -/
def kind : Value → Kind
  | .null => .null
  | .bool _ => .boolean
  | .int _ | .float _ => .number
  | .text _ => .string
  | .list _ => .array
  | .map _ => .object
  | .deferred .. => .function

/-- Whether a value counts as true.

Null, false, zeros, what is not a number, and empty text do not. -/
def isTrue : Value → Bool
  | .null => false
  | .bool b => b
  | .int n => n ≠ 0
  | .float x => !x.isZero && x ≠ .nan
  | .text s => s ≠ ""
  | .list _ | .map _ | .deferred .. => true

/-- The value of a number. -/
def ofNumber : Number → Value
  | .int n => .int n
  | .float x => .float x

/-- The value of an integer, rounded when 64 bits do not hold it. -/
def ofInt (n : Int) : Value :=
  ofNumber (.ofInt n)

/-- The text of one character. -/
def ofChar (c : Char) : Value :=
  .text (String.singleton c)

/-- What a value yields when it is used: a deferred value is called, others stay. -/
def resolve : Value → Calls Value
  | .deferred id early steady => do
    let earlier ← recordCall id
    return early.getD earlier steady
  | value => pure value

/-- A named part: an entry of a map, or the length of a list or text. -/
def field? (name : String) : Value → Option Value
  | .map entries => Entries.get? entries name
  | .list items => if name = "length" then some (.ofInt items.length) else none
  | .text s => if name = "length" then some (.ofInt s.length) else none
  | _ => none

/-- A numbered part: an item of a list, a character of a text, or an entry named by a number. -/
def element? (index : Nat) : Value → Option Value
  | .map entries => Entries.get? entries index.repr
  | .list items => items[index]?
  | .text s => s.toList[index]?.map ofChar
  | _ => none

/-- The part that one step of a path leads to. -/
def child? (value : Value) : Segment → Option Value
  | .field name => value.field? name
  | .element index => value.element? index

mutual

/-- Whether two values are equal.

Zeros are equal, what is not a number equals nothing, maps are equal in any order, and deferred
values are equal when they are the same one. -/
def same : Value → Value → Bool
  | .null, .null => true
  | .bool left, .bool right => left = right
  | .int left, .int right => left = right
  | .float left, .float right => left.same right
  | .text left, .text right => left = right
  | .list left, .list right => sameItems left right
  | .map left, .map right => left.length = right.length && sameEntries left right
  | .deferred left _ _, .deferred right _ _ => left = right
  | _, _ => false

/-- Whether lists hold equal items in order. -/
def sameItems : List Value → List Value → Bool
  | [], [] => true
  | left :: lefts, right :: rights => same left right && sameItems lefts rights
  | _, _ => false

/-- Whether each entry has an equal one among others. -/
def sameEntries : List (String × Value) → List (String × Value) → Bool
  | [], _ => true
  | (key, left) :: lefts, rights =>
    (match Entries.get? rights key with
      | some right => same left right
      | none => false) && sameEntries lefts rights

end

/-- The number that a value stands for, if it stands for one. -/
def number? : Value → Option Number
  | .int n => some (.int n)
  | .float x => some (.float x)
  | .bool b => some (.int (if b then 1 else 0))
  | .text s => Number.ofText? (trim s.toList)
  | _ => none

/-- The number whose integer part a value stands for.

A text must be a number, and its leading digits are what counts. -/
def integer? : Value → Option Number
  | .text s => (Number.ofText? (trim s.toList)).map fun _ => .ofLeadingDigits (trim s.toList)
  | value => value.number?

end Value

end TextTemplate
