import TextTemplate.Template.Basic
import TextTemplate.Text.Offset
import TextTemplate.Text.Quoted
import TextTemplate.Value.Kind

/-! What can be wrong with a template, and with the arguments it is given. -/

namespace TextTemplate

/-- A reason why a text is no template. -/
inductive ParseError where
  /-- A percent sign that begins no placeholder, with the text from there on. -/
  | unexpected (position : Nat) (remainder : String)
  /-- A key between parentheses that is no path, and where the key begins. -/
  | keyPath (position : Nat) (key : String)
  /-- A placeholder that addresses arguments otherwise than those before it. -/
  | mixed (span : Span)
  deriving DecidableEq, Repr

/-- Whether the text is malformed at this place, rather than at odds with an earlier one. -/
def ParseError.isSyntax : ParseError → Bool
  | .unexpected .. | .keyPath .. => true
  | .mixed _ => false

/-- The stretch of the template that an error points at. -/
def ParseError.span : ParseError → Span
  | .unexpected position _ => ⟨position, position + 1⟩
  | .keyPath position key => ⟨position, position + byteLength key.toList⟩
  | .mixed span => span

/-- An error in words. -/
def ParseError.message : ParseError → String
  | .unexpected _ remainder =>
    "Unexpected placeholder: " ++ String.ofList (quoted remainder.toList)
  | .keyPath _ key =>
    "Failed to parse named argument key: " ++ String.ofList (quoted key.toList)
  | .mixed _ => "Mixing positional and named placeholders is not supported"

/-- A reason why a placeholder cannot be rendered. -/
inductive RenderFault where
  /-- Fewer arguments were given than the placeholder counts to. -/
  | noArgument (number : Nat) (available : Nat)
  /-- A path takes a step that its value does not offer. -/
  | noProperty (segment : Segment)
  /-- A number is needed and the value is none. -/
  | notNumeric (conversion : Conversion) (found : Kind)
  deriving DecidableEq, Repr

/-- A placeholder that cannot be rendered, and why. -/
structure RenderError where
  span : Span
  fault : RenderFault
  deriving DecidableEq, Repr

/-- A fault in words. -/
def RenderFault.message : RenderFault → String
  | .noArgument number available =>
    "No such argument: " ++ number.repr ++ " (got " ++ available.repr ++ " arguments)"
  | .noProperty segment =>
    "Property " ++ String.ofList (quoted segment.text.toList) ++ " does not exist"
  | .notNumeric conversion found =>
    "Expected a number for %" ++ String.singleton conversion.char ++ " but found " ++ found.name

end TextTemplate
