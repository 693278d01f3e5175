import TextTemplate.Json.Reader
import TextTemplate.Number.Scientific

/-! The written form of documents in JSON, as RFC 8259 has it: which characters spell a number, a
string, and a document, where the spaces between tokens are left open. -/

namespace TextTemplate.Json

/-- A number as it is written: its sign, the digits before and behind the point, and a power of
ten if one is written out. -/
structure Numeral where
  negative : Bool
  whole : List Char
  decimals : List Char
  exponent : Option Int
  deriving DecidableEq

/-- The decimal number that is written. -/
def Numeral.literal (n : Numeral) : Literal where
  negative := n.negative
  digits := Nat.ofDigitChars 10 (n.whole ++ n.decimals) 0
  exponent := n.exponent.getD 0 - n.decimals.length

/-- Whether a number is written with neither decimals nor a power of ten. -/
def Numeral.IsInteger (n : Numeral) : Prop :=
  n.decimals = [] ∧ n.exponent = none

/-- A document as it is read, with its numbers as they are written and its members in order. -/
inductive Tree where
  | null
  | bool (b : Bool)
  | number (n : Numeral)
  | string (s : String)
  | array (items : List Tree)
  | object (members : List (String × Tree))

/-- Characters are one decimal digit or more. -/
structure IsDigits (cs : List Char) : Prop where
  nonempty : cs ≠ []
  digits : ∀ c ∈ cs, c.isDigit

/-- Characters are digits with a sign that may be missing. -/
inductive SpellsInteger : List Char → Int → Prop where
  | unsigned {digits : List Char} : IsDigits digits →
      SpellsInteger digits (Nat.ofDigitChars 10 digits 0)
  | plus {digits : List Char} : IsDigits digits →
      SpellsInteger ('+' :: digits) (Nat.ofDigitChars 10 digits 0)
  | minus {digits : List Char} : IsDigits digits →
      SpellsInteger ('-' :: digits) (-Nat.ofDigitChars 10 digits 0)

/-- Characters are a power of ten, which may be missing. -/
inductive SpellsExponent : List Char → Option Int → Prop where
  | missing : SpellsExponent [] none
  | power {mark : Char} {cs : List Char} {exponent : Int} :
      mark = 'e' ∨ mark = 'E' → SpellsInteger cs exponent →
      SpellsExponent (mark :: cs) (some exponent)

/-- Decimals stand behind a point, which is missing where there are none. -/
def fraction (decimals : List Char) : List Char :=
  if decimals = [] then [] else '.' :: decimals

/-- Characters are a number: a minus where it is negative, digits of which none but a single one
is a leading zero, decimals, and a power of ten. -/
inductive SpellsNumeral : List Char → Numeral → Prop where
  | numeral {n : Numeral} {power : List Char} :
      IsDigits n.whole → (n.whole.head? = some '0' → n.whole = ['0']) →
      (∀ c ∈ n.decimals, c.isDigit) → SpellsExponent power n.exponent →
      SpellsNumeral (minusSign n.negative ++ (n.whole ++ (fraction n.decimals ++ power))) n

/-- The characters that a backslash and one more character stand for. -/
def shortEscapes : List (Char × Char) :=
  [('\x22', '\x22'), ('\\', '\\'), ('/', '/'), ('b', '\x08'), ('f', '\x0c'), ('n', '\n'),
    ('r', '\r'), ('t', '\t')]

/-- Characters are four hexadecimal digits. -/
inductive SpellsUnit : List Char → Nat → Prop where
  | digits {a b c d : Char} {i j k l : Nat} : hexDigit? a = some i → hexDigit? b = some j →
      hexDigit? c = some k → hexDigit? d = some l →
      SpellsUnit [a, b, c, d] (16 * (16 * (16 * i + j) + k) + l)

/-- Characters in a string stand for one character: itself, or an escape of it, which takes two
units beyond the first 65536 characters. -/
inductive SpellsChar : List Char → Char → Prop where
  | plain {c : Char} : 0x20 ≤ c.toNat → c ≠ '\x22' → c ≠ '\\' → SpellsChar [c] c
  | short {mark c : Char} : (mark, c) ∈ shortEscapes → SpellsChar ['\\', mark] c
  | unit {digits : List Char} {c : Char} : SpellsUnit digits c.toNat →
      SpellsChar ('\\' :: 'u' :: digits) c
  | pair {digits more : List Char} {high low : Nat} {c : Char} :
      SpellsUnit digits high → SpellsUnit more low →
      0xD800 ≤ high ∧ high < 0xDC00 → 0xDC00 ≤ low ∧ low < 0xE000 →
      c.toNat = 0x10000 + (high - 0xD800) * 0x400 + (low - 0xDC00) →
      SpellsChar ('\\' :: 'u' :: (digits ++ '\\' :: 'u' :: more)) c

/-- Characters between quotes stand for the characters of a text. -/
inductive SpellsChars : List Char → List Char → Prop where
  | nil : SpellsChars [] []
  | cons {front rest : List Char} {c : Char} {cs : List Char} :
      SpellsChar front c → SpellsChars rest cs → SpellsChars (front ++ rest) (c :: cs)

/-- Characters are a string between quotes. -/
inductive SpellsString : List Char → String → Prop where
  | quoted {body : List Char} {s : String} : SpellsChars body s.toList →
      SpellsString ('\x22' :: (body ++ ['\x22'])) s

mutual

/-- Characters are a document without spaces around it. -/
inductive Spells (Gap : List Char → Prop) : List Char → Tree → Prop where
  | null : Spells Gap ['n', 'u', 'l', 'l'] .null
  | isFalse : Spells Gap ['f', 'a', 'l', 's', 'e'] (.bool false)
  | isTrue : Spells Gap ['t', 'r', 'u', 'e'] (.bool true)
  | number {cs : List Char} {n : Numeral} : SpellsNumeral cs n → Spells Gap cs (.number n)
  | string {cs : List Char} {s : String} : SpellsString cs s → Spells Gap cs (.string s)
  | emptyArray {gap : List Char} : Gap gap → Spells Gap ('[' :: (gap ++ [']'])) (.array [])
  | array {cs : List Char} {items : List Tree} : SpellsItems Gap cs items →
      Spells Gap ('[' :: (cs ++ [']'])) (.array items)
  | emptyObject {gap : List Char} : Gap gap →
      Spells Gap ('\x7b' :: (gap ++ ['\x7d'])) (.object [])
  | object {cs : List Char} {members : List (String × Tree)} : SpellsMembers Gap cs members →
      Spells Gap ('\x7b' :: (cs ++ ['\x7d'])) (.object members)

/-- Characters are a document between spaces. -/
inductive SpellsSpaced (Gap : List Char → Prop) : List Char → Tree → Prop where
  | spaced {before cs after : List Char} {tree : Tree} : Gap before → Spells Gap cs tree →
      Gap after → SpellsSpaced Gap (before ++ (cs ++ after)) tree

/-- Characters are documents with a comma between two. -/
inductive SpellsItems (Gap : List Char → Prop) : List Char → List Tree → Prop where
  | last {cs : List Char} {item : Tree} : SpellsSpaced Gap cs item → SpellsItems Gap cs [item]
  | next {cs rest : List Char} {item : Tree} {items : List Tree} :
      SpellsSpaced Gap cs item → SpellsItems Gap rest items →
      SpellsItems Gap (cs ++ ',' :: rest) (item :: items)

/-- Characters are documents behind names, with a comma between two. -/
inductive SpellsMembers (Gap : List Char → Prop) :
    List Char → List (String × Tree) → Prop where
  | last {before name after cs : List Char} {key : String} {value : Tree} :
      Gap before → SpellsString name key → Gap after → SpellsSpaced Gap cs value →
      SpellsMembers Gap (before ++ (name ++ (after ++ ':' :: cs))) [(key, value)]
  | next {before name after cs rest : List Char} {key : String} {value : Tree}
      {members : List (String × Tree)} :
      Gap before → SpellsString name key → Gap after → SpellsSpaced Gap cs value →
      SpellsMembers Gap rest members →
      SpellsMembers Gap (before ++ (name ++ (after ++ ':' :: (cs ++ ',' :: rest))))
        ((key, value) :: members)

end

/-- Characters are insignificant: spaces, tabs, line feeds and carriage returns. -/
def IsGap (cs : List Char) : Prop :=
  ∀ c ∈ cs, isSpace c

/-- Characters are a document with any spaces between its tokens and around it. -/
def SpellsText : List Char → Tree → Prop :=
  SpellsSpaced IsGap

/-- Characters are a document with no spaces between its tokens or around it. -/
def SpellsCompact : List Char → Tree → Prop :=
  SpellsSpaced (· = [])

end TextTemplate.Json
