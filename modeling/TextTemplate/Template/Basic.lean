import TextTemplate.Value.Path

/-! A template is text with placeholders, each of which says what to render and how. -/

namespace TextTemplate

/-- A stretch of a text, counted in bytes from its start. -/
structure Span where
  start : Nat
  stop : Nat
  deriving DecidableEq, Repr

/-- The argument that a placeholder renders. -/
inductive Selector where
  /-- The next argument in line. -/
  | next
  /-- The argument with this number, counted from one. -/
  | number (position : Nat)
  /-- What a path leads to in the next argument in line. -/
  | path (segments : List Segment)
  deriving DecidableEq, Repr

/-- The two ways of addressing arguments, which exclude each other in one template. -/
inductive Addressing where
  | positional
  | named
  deriving DecidableEq, Repr

/-- How a selector addresses its argument. -/
def Selector.addressing : Selector → Addressing
  | .next | .number _ => .positional
  | .path _ => .named

/-- What fills a field up to its width. -/
inductive Pad where
  | zero
  | character (c : Char)
  deriving DecidableEq, Repr

/-- The character that a pad repeats. -/
def Pad.char : Pad → Char
  | .zero => '0'
  | .character c => c

/-- How an argument becomes text. -/
inductive Conversion where
  /-- An integer in base two. -/
  | binary
  /-- The character with an integer as its code point. -/
  | character
  /-- An integer in base ten. -/
  | decimal
  /-- A number as a mantissa and a power of ten. -/
  | exponential
  /-- A number with a fixed count of decimals. -/
  | fixed
  /-- A number with a fixed count of significant digits. -/
  | general
  /-- A dump in JSON. -/
  | json
  /-- An integer in base eight. -/
  | octal
  /-- The argument as text. -/
  | text
  /-- Whether the argument counts as true. -/
  | truth
  /-- The name of the kind of the argument. -/
  | kind
  /-- An integer wrapped to 32 bits. -/
  | unsigned
  /-- The argument as text, with a deferred value left alone. -/
  | primitive
  /-- An integer in base sixteen with small letters. -/
  | hexLower
  /-- An integer in base sixteen with capital letters. -/
  | hexUpper
  deriving DecidableEq, Repr

/-- The conversion that a character asks for. -/
def Conversion.ofChar? : Char → Option Conversion
  | 'b' => some .binary
  | 'c' => some .character
  | 'd' | 'i' => some .decimal
  | 'e' => some .exponential
  | 'f' => some .fixed
  | 'g' => some .general
  | 'j' => some .json
  | 'o' => some .octal
  | 's' => some .text
  | 't' => some .truth
  | 'T' => some .kind
  | 'u' => some .unsigned
  | 'v' => some .primitive
  | 'x' => some .hexLower
  | 'X' => some .hexUpper
  | _ => none

/-- The character that names a conversion. -/
def Conversion.char : Conversion → Char
  | .binary => 'b'
  | .character => 'c'
  | .decimal => 'd'
  | .exponential => 'e'
  | .fixed => 'f'
  | .general => 'g'
  | .json => 'j'
  | .octal => 'o'
  | .text => 's'
  | .truth => 't'
  | .kind => 'T'
  | .unsigned => 'u'
  | .primitive => 'v'
  | .hexLower => 'x'
  | .hexUpper => 'X'

/-- Whether a conversion shows the integer part of a number. -/
def Conversion.isInteger : Conversion → Bool
  | .binary | .character | .decimal | .octal | .unsigned | .hexLower | .hexUpper => true
  | .exponential | .fixed | .general => false
  | .json | .text | .truth | .kind | .primitive => false

/-- Whether a conversion needs a number. -/
def Conversion.isNumeric : Conversion → Bool
  | .exponential | .fixed | .general => true
  | conversion => conversion.isInteger

/-- Whether a conversion calls a deferred value before it shows it. -/
def Conversion.callsDeferred : Conversion → Bool
  | .kind | .primitive => false
  | _ => true

/-- A request for one argument, with the look that its text shall have. -/
structure Placeholder where
  selector : Selector
  /-- Nonnegative numbers get a plus sign. -/
  forceSign : Bool
  pad : Option Pad
  /-- The pad stands behind the text. -/
  leftJustify : Bool
  /-- The least number of characters. -/
  width : Option Nat
  /-- The number of decimals, or the most characters of a text. -/
  precision : Option Nat
  conversion : Conversion
  deriving DecidableEq, Repr

/-- A part of a template. -/
inductive Piece where
  /-- Text that stands for itself. -/
  | literal (text : String)
  /-- A percent sign, written twice. -/
  | percent
  | placeholder (request : Placeholder)
  deriving DecidableEq, Repr

/-- A piece and the stretch of the source that spells it. -/
structure Node where
  span : Span
  piece : Piece
  deriving DecidableEq, Repr

/-- A source text and the pieces it is read as. -/
structure Template where
  source : String
  nodes : List Node
  deriving DecidableEq, Repr

/-- The placeholders of a template with their places, in order. -/
def Template.placeholders (template : Template) : List (Span × Placeholder) :=
  template.nodes.filterMap fun node =>
    match node.piece with
    | .placeholder request => some (node.span, request)
    | _ => none

/-- Templates are the same when they are written the same. -/
def Template.same (left right : Template) : Bool :=
  left.source = right.source

end TextTemplate
