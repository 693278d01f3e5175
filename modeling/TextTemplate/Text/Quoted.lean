import TextTemplate.Text.Extending
import TextTemplate.Text.Unprintable

/-! Quoted text shows every character, also those that leave no mark on a page. -/

namespace TextTemplate

/-- Whether a character is shown as itself between quotes. -/
def isShown (c : Char) : Bool :=
  c = ' ' || !(extending.has c || unprintable.has c)

/-- A character as it is written between quotes. -/
def quotedChar (c : Char) : List Char :=
  match c with
  | '\x00' => ['\\', '0']
  | '\t' => ['\\', 't']
  | '\r' => ['\\', 'r']
  | '\n' => ['\\', 'n']
  | '\x22' => ['\\', '\x22']
  | '\\' => ['\\', '\\']
  | c =>
    if isShown c then [c]
    else ['\\', 'u', '\x7b'] ++ Nat.toDigits 16 c.toNat ++ ['\x7d']

/-- A text between double quotes. -/
def quoted (cs : List Char) : List Char :=
  '\x22' :: cs.flatMap quotedChar ++ ['\x22']

end TextTemplate
