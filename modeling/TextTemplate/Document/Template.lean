import TextTemplate.Json.Writer
import TextTemplate.Template.Reader

/-! A template can be a text field of a document. -/

namespace TextTemplate

/-- A reason why a field of a document holds no template. -/
inductive FieldError where
  | parse (error : ParseError)
  /-- The field is not a text. -/
  | notText (found : Json)

/-- What a document is, in words. -/
def Json.describe : Json → String
  | .null => "null"
  | .bool b => "boolean `" ++ toString b ++ "`"
  | .int n => "integer `" ++ n.repr ++ "`"
  | .float x => "floating point `" ++ String.ofList (Json.writeFloat x) ++ "`"
  | .string s => "string \x22" ++ s ++ "\x22"
  | .array _ => "sequence"
  | .object _ => "map"

/-- A fault of a field in words. -/
def FieldError.message : FieldError → String
  | .parse error => error.message
  | .notText found =>
    "invalid type: " ++ found.describe ++ ", expected a format template string"

/-- Reads a template from a field of a document. -/
def Template.ofJson : Json → Except FieldError Template
  | .string source => (Template.parse source).mapError .parse
  | found => .error (.notText found)

/-- The field of a document that holds a template. -/
def Template.toJson (template : Template) : Json :=
  .string template.source

end TextTemplate
