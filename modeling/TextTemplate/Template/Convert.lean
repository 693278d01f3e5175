import TextTemplate.Number.Text
import TextTemplate.Template.Error
import TextTemplate.Value.Text

/-! A conversion turns a value into the text that a placeholder shows. -/

namespace TextTemplate

/-- Converted text before it is fitted into its field. -/
inductive Fragment where
  /-- Text that is padded as it stands. -/
  | plain (text : List Char)
  /-- A number, which is signed when it is negative or a sign is forced. -/
  | signed (body : List Char) (nonnegative : Bool)
  /-- Text that is not padded at all. -/
  | verbatim (text : List Char)
  deriving DecidableEq, Repr

/-- The widest indentation of a dump. -/
def maxIndent : Nat := 10

/-- The text of a number without the sign it may begin with. -/
def unsignedBody : List Char → List Char
  | '+' :: rest | '-' :: rest => rest
  | body => body

namespace Placeholder

/-- A number as a numeric conversion shows it. -/
def convertNumber (request : Placeholder) (number : Number) : Fragment :=
  let signed (body : List Char) := Fragment.signed body number.nonnegative
  match request.conversion with
  | .exponential => signed (exponentialText request.precision number.toBinary64)
  | .fixed =>
    match request.precision with
    | some decimals => signed (fixedText decimals number.toBinary64)
    | none => signed number.text
  | .general =>
    match request.precision with
    | some precision => signed (generalText precision number.toBinary64)
    | none => signed number.text
  -- In other bases the sign is part of the text, so that it is filled up in front of it.
  | .binary => .plain (integerText 2 number)
  | .octal => .plain (integerText 8 number)
  | .hexLower => .plain (integerText 16 number)
  | .hexUpper => .plain (upperText (integerText 16 number))
  | .unsigned => .plain (unsignedText number)
  | .character => .plain (characterText number)
  | _ => signed (integerText 10 number)

/-- The counts of decimals that the formatter is asked for by a number.

A number that is not finite or has no precision is written without counting. -/
def decimals (request : Placeholder) (number : Number) : List Nat :=
  match number.toBinary64, request.precision with
  | .finite _ m, some precision =>
    match request.conversion with
    | .exponential | .fixed => [precision]
    | .general => generalDecimals precision m
    | _ => []
  | _, _ => []

/-- A text cut to the precision of a placeholder. -/
def cut (request : Placeholder) (text : List Char) : Fragment :=
  match request.precision with
  | some most => .plain (text.take most)
  | none => .plain text

/-- The number that a value is to a numeric conversion. -/
def number? (request : Placeholder) (value : Value) : Option Number :=
  -- Of a text, conversions to integers read the leading digits.
  if request.conversion.isInteger then value.integer? else value.number?

/-- Whether the formatter can count the decimals that a value asks for. -/
def isCountable (request : Placeholder) (value : Value) : Bool :=
  (request.number? value).all fun number =>
    (request.decimals number).all fun count => count ≤ maxDecimals

/-- The indentation of a dump, which is the precision or else the width. -/
def indent (request : Placeholder) : Nat :=
  -- Wider indentations are cut to the widest.
  min ((request.precision <|> request.width).getD 0) maxIndent

/-- A value as the conversion of a placeholder shows it. -/
def convert (request : Placeholder) (value : Value) : Calls (Except RenderFault Fragment) := do
  if request.conversion.isNumeric then
    match request.number? value with
    | some number => return .ok (request.convertNumber number)
    | none => return .error (.notNumeric request.conversion value.kind)
  else
    -- A dump is neither cut nor padded.
    match request.conversion with
    | .json => return .ok (.verbatim (← value.dump request.indent))
    | .truth => return .ok (request.cut (toString value.isTrue).toList)
    | .kind => return .ok (request.cut value.kind.name.toList)
    | _ => return .ok (request.cut (← value.display))

/-- Fills a signed text up to the width of a placeholder. -/
def field (request : Placeholder) (sign body : List Char) : List Char :=
  let pad := (request.pad.map Pad.char).getD ' '
  let fill := List.replicate (request.width.getD 0 - (sign.length + body.length)) pad
  if request.leftJustify then sign ++ body ++ fill
  -- Zeros go between the sign and the digits.
  else if pad = '0' then sign ++ fill ++ body
  else fill ++ sign ++ body

/-- Puts a fragment into the field of a placeholder. -/
def compose (request : Placeholder) : Fragment → List Char
  | .verbatim text => text
  | .plain text => request.field [] text
  | .signed body nonnegative =>
    if nonnegative && !request.forceSign then request.field [] body
    -- The sign of the number takes the place of a sign in its text.
    else request.field [if nonnegative then '+' else '-'] (unsignedBody body)

end Placeholder

end TextTemplate
