import TextTemplate.Number.Binary64

/-! Documents in JSON are trees of scalars, arrays and objects. -/

namespace TextTemplate

/-- A document in JSON, with the members of its objects in order. -/
inductive Json where
  | null
  | bool (b : Bool)
  | int (n : Int)
  | float (x : Binary64)
  | string (s : String)
  | array (items : List Json)
  | object (members : List (String × Json))
  deriving Inhabited

end TextTemplate
