/-! Every value is of one of seven kinds. -/

namespace TextTemplate

/-- What sort of thing a value is. -/
inductive Kind where
  | null
  | boolean
  | number
  | string
  | array
  | object
  | function
  deriving DecidableEq, Repr

/-- The name of a kind. -/
def Kind.name : Kind → String
  | .null => "null"
  | .boolean => "boolean"
  | .number => "number"
  | .string => "string"
  | .array => "array"
  | .object => "object"
  | .function => "function"

end TextTemplate
