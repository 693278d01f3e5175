/-! A path leads step by step into a value. -/

namespace TextTemplate

/-- One step into a value: to a named field or to a numbered element. -/
inductive Segment where
  | field (name : String)
  | element (index : Nat)
  deriving DecidableEq, Repr

/-- A segment as it is named to a reader. -/
def Segment.text : Segment → String
  | .field name => name
  | .element index => index.repr

end TextTemplate
