import TextTemplate.Template.Reader

/-! The written form of templates: which characters spell a number, a path, and a placeholder. -/

namespace TextTemplate

/-- Characters are decimal digits of a number that fits in 64 bits. -/
structure SpellsNumber (cs : List Char) (number : Nat) : Prop where
  nonempty : cs ≠ []
  digits : ∀ c ∈ cs, c.isDigit
  value : Nat.ofDigitChars 10 cs 0 = number
  bounded : number < 0x10000000000000000

/-- Characters are a name: ASCII letters, digits and underscores, of which the first is no digit. -/
structure IsName (cs : List Char) : Prop where
  start : ∃ c ∈ cs.head?, c.isAlpha ∨ c = '_'
  onward : ∀ c ∈ cs, c.isAlpha ∨ c.isDigit ∨ c = '_'

/-- Characters are steps of a path: fields behind points and elements in brackets. -/
inductive SpellsSteps : List Char → List Segment → Prop where
  | done : SpellsSteps [] []
  | field {name rest : List Char} {segments : List Segment} :
      IsName name → SpellsSteps rest segments →
      SpellsSteps ('.' :: (name ++ rest)) (.field (String.ofList name) :: segments)
  | element {digits rest : List Char} {index : Nat} {segments : List Segment} :
      SpellsNumber digits index → SpellsSteps rest segments →
      SpellsSteps ('[' :: (digits ++ ']' :: rest)) (.element index :: segments)

/-- Characters are a path: a name and then steps. -/
inductive SpellsPath : List Char → List Segment → Prop where
  | path {name rest : List Char} {segments : List Segment} :
      IsName name → SpellsSteps rest segments →
      SpellsPath (name ++ rest) (.field (String.ofList name) :: segments)

/-- Characters select an argument: by nothing, by a number before a dollar sign, or by a path. -/
inductive SpellsSelector : List Char → Selector → Prop where
  | next : SpellsSelector [] .next
  | number {digits : List Char} {position : Nat} :
      SpellsNumber digits position → digits.head? ≠ some '0' →
      SpellsSelector (digits ++ ['$']) (.number position)
  | path {key : List Char} {segments : List Segment} :
      SpellsPath key segments → SpellsSelector ('(' :: (key ++ [')'])) (.path segments)

/-- Characters are a mark where it is set, and none where it is not. -/
def SpellsFlag (mark : Char) (cs : List Char) (set : Bool) : Prop :=
  cs = if set then [mark] else []

/-- Characters are a pad: a zero, or any character but a dollar sign behind a quote. -/
inductive SpellsPad : List Char → Option Pad → Prop where
  | missing : SpellsPad [] none
  | zero : SpellsPad ['0'] (some .zero)
  | quoted {c : Char} : c ≠ '$' → SpellsPad ['\x27', c] (some (.character c))

/-- Characters are a width, which may be missing. -/
inductive SpellsWidth : List Char → Option Nat → Prop where
  | missing : SpellsWidth [] none
  | digits {cs : List Char} {width : Nat} : SpellsNumber cs width → SpellsWidth cs (some width)

/-- Characters are a precision behind a point, where both may be missing. -/
inductive SpellsPrecision : List Char → Option Nat → Prop where
  | missing : SpellsPrecision [] none
  | digits {cs : List Char} {precision : Nat} :
      SpellsNumber cs precision → SpellsPrecision ('.' :: cs) (some precision)

/-- A character asks for a conversion: each has its own, and a decimal one has another. -/
def SpellsConversion (c : Char) (conversion : Conversion) : Prop :=
  c = conversion.char ∨ c = 'i' ∧ conversion = .decimal

/-- The characters of the fields of a placeholder, in the order in which they are written. -/
structure Spelling where
  address : List Char
  sign : List Char
  pad : List Char
  justify : List Char
  width : List Char
  precision : List Char
  conversion : Char

namespace Spelling

/-- The fields behind the argument, one after the other. -/
def format (spelling : Spelling) : List Char :=
  spelling.sign ++ (spelling.pad ++ (spelling.justify ++ (spelling.width ++
    (spelling.precision ++ [spelling.conversion]))))

/-- A placeholder as it is written, with its percent sign. -/
def text (spelling : Spelling) : List Char :=
  '%' :: (spelling.address ++ spelling.format)

/-- The fields behind the argument say how a placeholder shows its argument. -/
structure SpellsFormat (spelling : Spelling) (request : Placeholder) : Prop where
  sign : SpellsFlag '+' spelling.sign request.forceSign
  pad : SpellsPad spelling.pad request.pad
  justify : SpellsFlag '-' spelling.justify request.leftJustify
  width : SpellsWidth spelling.width request.width
  precision : SpellsPrecision spelling.precision request.precision
  conversion : SpellsConversion spelling.conversion request.conversion

/-- The fields say what a placeholder shows and how. -/
structure Spells (spelling : Spelling) (request : Placeholder) : Prop where
  selector : SpellsSelector spelling.address request.selector
  format : spelling.SpellsFormat request

/-- A zero directly behind the argument and the sign pads, and never begins a width. -/
def ZeroPads (spelling : Spelling) : Prop :=
  spelling.pad = [] → spelling.justify = [] → spelling.width.head? ≠ some '0'

end Spelling

/-- Characters have the form of a placeholder, where a zero may pad or begin a width. -/
def MaySpell (cs : List Char) (request : Placeholder) : Prop :=
  ∃ spelling : Spelling, cs = spelling.text ∧ spelling.Spells request

/-- Characters spell a placeholder, in which a zero pads where it can. -/
def SpellsPlaceholder (cs : List Char) (request : Placeholder) : Prop :=
  ∃ spelling : Spelling, cs = spelling.text ∧ spelling.Spells request ∧ spelling.ZeroPads

end TextTemplate
