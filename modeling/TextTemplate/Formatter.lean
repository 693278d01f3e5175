import TextTemplate.Template.Render

/-! A formatter keeps the templates it has read, so each is read once. -/

namespace TextTemplate

/-- The texts read so far and their templates, each in the slot where it was first put. -/
structure Formatter where
  entries : List (String × Template)
  deriving DecidableEq, Repr

namespace Formatter

/-- A formatter that has read nothing. -/
def empty : Formatter :=
  ⟨[]⟩

/-- The number of templates that are kept. -/
def size (formatter : Formatter) : Nat :=
  formatter.entries.length

/-- The template that is kept under a text, and its slot. -/
def find? (formatter : Formatter) (source : String) : Option (Template × Nat) :=
  (formatter.entries.zipIdx.find? fun ((key, _), _) => key = source).map
    fun ((_, template), slot) => (template, slot)

/-- A kept template and its slot, or a new one behind all others.

A text that is no template leaves the formatter as it was. -/
def parse (formatter : Formatter) (source : String) :
    Except ParseError (Template × Nat) × Formatter :=
  match formatter.find? source with
  | some kept => (.ok kept, formatter)
  | none =>
    match Template.parse source with
    | .ok template =>
      (.ok (template, formatter.size), ⟨formatter.entries ++ [(source, template)]⟩)
    | .error error => (.error error, formatter)

/-- Renders a template with arguments, reading it only when it is not kept. -/
def render (formatter : Formatter) (source : String) (args : List Value) :
    Calls (Except FormatError String × Formatter) := do
  match formatter.parse source with
  | (.ok (template, _), formatter) =>
    return ((← template.render args).mapError .render, formatter)
  | (.error error, formatter) => return (.error (.parse error), formatter)

/-- Renders a template with arguments as `render` does, or ends the program. -/
def render? (formatter : Formatter) (source : String) (args : List Value) :
    Calls (Option (Except FormatError String) × Formatter) := do
  match formatter.parse source with
  | (.ok (template, _), formatter) =>
    return ((← template.render? args).map fun result => result.mapError .render, formatter)
  | (.error error, formatter) => return (some (.error (.parse error)), formatter)

/-- A formatter as it is shown to a programmer. -/
def describe (formatter : Formatter) : String :=
  "Formatter \x7b cached_templates: " ++ formatter.size.repr ++ " \x7d"

end Formatter

/-- A template as it is shown to a programmer. -/
def Template.describe (template : Template) : String :=
  "Template(" ++ String.ofList (quoted template.source.toList) ++ ")"

end TextTemplate
