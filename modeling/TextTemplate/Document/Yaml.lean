import TextTemplate.Value.Text

/-! Documents in YAML serve as arguments. -/

namespace TextTemplate

/-- A document in YAML, where any document can be a key. -/
inductive Yaml where
  | null
  | bool (b : Bool)
  | int (n : Int)
  | float (x : Binary64)
  | string (s : String)
  | sequence (items : List Yaml)
  | mapping (pairs : List (Yaml × Yaml))
  | tagged (tag : String) (document : Yaml)

namespace Yaml

/-- What a tag names, with or without an exclamation mark before the name.

A lone mark has no name behind it and is itself the name. -/
def tagName (tag : String) : List Char :=
  match tag.toList with
  | '!' :: c :: name => c :: name
  | name => name

/-- Whether two numbers are the same key: those that are not a number are one key. -/
def sameKeyFloat (left right : Binary64) : Bool :=
  left.same right || (left = .nan && right = .nan)

mutual

/-- Whether two documents are the same key. -/
def sameKey : Yaml → Yaml → Bool
  | .null, .null => true
  | .bool left, .bool right => left = right
  | .int left, .int right => left = right
  | .float left, .float right => sameKeyFloat left right
  | .string left, .string right => left = right
  | .sequence left, .sequence right => sameKeys left right
  -- The order of pairs does not matter, but their count does.
  | .mapping left, .mapping right => left.length = right.length && samePairs left right
  | .tagged left document, .tagged right other =>
    tagName left = tagName right && sameKey document other
  | _, _ => false

/-- Whether sequences hold the same keys in order. -/
def sameKeys : List Yaml → List Yaml → Bool
  | [], [] => true
  | left :: lefts, right :: rights => sameKey left right && sameKeys lefts rights
  | _, _ => false

/-- Whether each pair is one of some others. -/
def samePairs : List (Yaml × Yaml) → List (Yaml × Yaml) → Bool
  | [], _ => true
  | (key, value) :: pairs, others =>
    others.any (fun (otherKey, other) => sameKey key otherKey && sameKey value other) &&
      samePairs pairs others

end

/-- Puts a value under a key, which keeps its place if it has one and else comes last. -/
def insertPair (key value : Yaml) : List (Yaml × Yaml) → List (Yaml × Yaml)
  | [] => [(key, value)]
  | (first, old) :: pairs =>
    if sameKey first key then (first, value) :: pairs
    else (first, old) :: insertPair key value pairs

/-- A mapping of which a repeated key keeps its first place and its last value. -/
def ofPairs (pairs : List (Yaml × Yaml)) : Yaml :=
  .mapping (pairs.foldl (fun merged (key, value) => insertPair key value merged) [])

/-- The text of a key: text as it is, and other values as they are shown. -/
def keyText (key : Value) : String :=
  -- Documents hold no deferred values, so it does not matter what was called before.
  .ofList (key.display.run .empty).1

/-- The value of an integer of 64 bits with a sign, or else without one, or else rounded. -/
def integerValue (n : Int) : Value :=
  match int64? n with
  | some n => .int n
  | none =>
    match uint64? n with
    | some n => .ofInt n.toNat
    -- Wider integers are rounded at once.
    | none => .float (.ofInt n)

mutual

/-- The value of a document, where tags are left out and keys become text. -/
def toValue : Yaml → Value
  | .null => .null
  | .bool b => .bool b
  | .int n => integerValue n
  | .float x => .float x
  | .string s => .text s
  | .sequence items => .list (itemValues items)
  -- Different keys can have one text, and the last value of them is kept.
  | .mapping pairs => .map (Entries.ofList (pairValues pairs))
  | .tagged _ document => document.toValue

/-- The values of the items of a sequence. -/
def itemValues : List Yaml → List Value
  | [] => []
  | item :: items => item.toValue :: itemValues items

/-- The values of the pairs of a mapping under the texts of their keys. -/
def pairValues : List (Yaml × Yaml) → List (String × Value)
  | [] => []
  | (key, value) :: pairs => (keyText key.toValue, value.toValue) :: pairValues pairs

end

end Yaml

end TextTemplate
