import TextTemplate.Proofs.Json.Unambiguous
import TextTemplate.Proofs.Json.Writer

/-! A document with a line for each item is the document on one line with white space between its
tokens: line breaks, each with an indentation for the arrays and objects that are open behind it,
and a space behind each colon. -/

namespace TextTemplate.Json

/-- Where a document is read: between strings, inside one, or behind a backslash in one. -/
inductive Place where
  | outside
  | inside
  | escaped
  deriving DecidableEq

/-- A place in a document, and how many arrays and objects are open there. -/
structure Cursor where
  place : Place
  opened : Nat
  deriving DecidableEq

/-- Whether a character begins an array or an object. -/
def opens (c : Char) : Bool :=
  c = '[' || c = '\x7b'

/-- Whether a character ends an array or an object. -/
def closes (c : Char) : Bool :=
  c = ']' || c = '\x7d'

/-- Whether a character is a space or a line break. -/
def isFill (c : Char) : Bool :=
  c = ' ' || c = '\n'

namespace Cursor

/-- The place where a document begins. -/
def start : Cursor :=
  ⟨.outside, 0⟩

/-- The place behind one more character. -/
def step (here : Cursor) (c : Char) : Cursor :=
  match here.place with
  | .outside =>
    if c = '\x22' then { here with place := .inside }
    else if opens c then { here with opened := here.opened + 1 }
    else if closes c then { here with opened := here.opened - 1 }
    else here
  | .inside =>
    if c = '\x22' then { here with place := .outside }
    else if c = '\\' then { here with place := .escaped }
    else here
  | .escaped => { here with place := .inside }

/-- The place behind some characters. -/
def scan (here : Cursor) (cs : List Char) : Cursor :=
  cs.foldl step here

/-- Characters without the spaces and line breaks outside strings. -/
def condensed (here : Cursor) : List Char → List Char
  | [] => []
  | c :: cs =>
    if here.place = .outside ∧ isFill c then (here.step c).condensed cs
    else c :: (here.step c).condensed cs

/-- What holds at each character of a text, of the place before it and of what follows it. -/
def Each (P : Cursor → Char → List Char → Prop) : Cursor → List Char → Prop
  | _, [] => True
  | here, c :: cs => P here c cs ∧ Each P (here.step c) cs

end Cursor

open Cursor (Each)

/-- A line begins with the indentation of what is open there, where the end of an array or object
counts as outside, and with no other space. -/
def IsIndented (indent opened : Nat) (line : List Char) : Prop :=
  ∃ c rest,
    line = List.replicate (indent * if closes c then opened - 1 else opened) ' ' ++ c :: rest ∧
    c ≠ ' '

/-- No white space stands between a bracket and the one that closes it with nothing between them. -/
def IsTight (behind : List Char) : Prop :=
  ∃ gap next rest, behind = gap ++ next :: rest ∧ (∀ c ∈ gap, isFill c) ∧ isFill next = false ∧
    (closes next → gap = [])

/-- What follows a line break is indented, and what follows an opening bracket is tight. -/
structure IsTidy (indent : Nat) (here : Cursor) (c : Char) (behind : List Char) : Prop where
  line : c = '\n' → IsIndented indent here.opened behind
  empty : here.place = .outside → opens c → IsTight behind

/-- Characters lead from one place in a document to another, are laid out in lines with an
indentation, and are others without their white space. -/
structure Lays (indent : Nat) (here there : Cursor) (text compact : List Char) : Prop where
  scan : here.scan text = there
  tidy : Each (IsTidy indent) here text
  condensed : here.condensed text = compact

variable {indent opened : Nat} {here there : Cursor} {c : Char} {cs text compact : List Char}

section Stretches

/-- A layout does not depend on what comes later. -/
theorem IsTidy.append (tidy : IsTidy indent here c cs) (more : List Char) :
    IsTidy indent here c (cs ++ more) := by
  -- Both conditions look no further than the first visible character.
  constructor
  · intro line
    obtain ⟨next, rest, rfl, visible⟩ := tidy.line line
    exact ⟨next, rest ++ more, by simp, visible⟩
  · intro outside bracket
    obtain ⟨gap, next, rest, rfl, fill, visible, tight⟩ := tidy.empty outside bracket
    exact ⟨gap, next, rest ++ more, by simp, fill, visible, tight⟩

/-- Nothing leads nowhere. -/
theorem Lays.nil (indent : Nat) (here : Cursor) : Lays indent here here [] [] :=
  ⟨rfl, trivial, rfl⟩

/-- Characters that are laid out one behind the other are laid out together. -/
theorem Lays.append {beyond : Cursor} {more tail : List Char}
    (front : Lays indent here there text compact) (back : Lays indent there beyond more tail) :
    Lays indent here beyond (text ++ more) (compact ++ tail) := by
  obtain ⟨reached, tidy, rfl⟩ := front
  -- The induction is on the first characters, of which each sees what follows behind them.
  induction text generalizing here with
  | nil =>
    obtain rfl : here = there := reached
    exact back
  | cons c cs ih =>
    obtain ⟨first, others⟩ := tidy
    obtain ⟨scan, rest, condensed⟩ := ih reached others
    refine ⟨scan, ⟨first.append more, rest⟩, ?_⟩
    rw [List.cons_append, Cursor.condensed, Cursor.condensed, condensed]
    split <;> rfl

/-- A character is part of a token: no white space but inside a string, and no line break there. -/
def IsSolid (here : Cursor) (c : Char) : Prop :=
  c ≠ '\n' ∧ (here.place = .outside → c ≠ ' ' ∧ opens c = false)

/-- A part of a token is kept. -/
theorem lays_char (solid : IsSolid here c) : Lays indent here (here.step c) [c] [c] := by
  -- The character is no white space where that would be left out, so it stays.
  have visible : ¬ (here.place = .outside ∧ isFill c) := by
    rintro ⟨outside, fill⟩
    simp [isFill, solid.1, (solid.2 outside).1] at fill
  refine ⟨rfl, ⟨⟨?_, ?_⟩, trivial⟩, ?_⟩
  · intro line
    exact absurd line solid.1
  · intro outside bracket
    rw [(solid.2 outside).2] at bracket
    contradiction
  · rw [Cursor.condensed, if_neg visible]
    rfl

/-- Characters of tokens that lead nowhere are kept. -/
theorem lays_steady (each : ∀ c ∈ cs, here.step c = here ∧ IsSolid here c) :
    Lays indent here here cs cs := by
  -- Each character stays in the same place, so that the next one is read there as well.
  induction cs with
  | nil => exact .nil indent here
  | cons c cs ih =>
    obtain ⟨⟨stays, solid⟩, others⟩ := List.forall_mem_cons.mp each
    have first := @lays_char indent here c solid
    rw [stays] at first
    exact first.append (ih others)

end Stretches

section Tokens

/-- Characters that stand for themselves in a string are kept. -/
theorem lays_inside (each : ∀ c ∈ cs, c ≠ '\n' ∧ c ≠ '\x22' ∧ c ≠ '\\') :
    Lays indent ⟨.inside, opened⟩ ⟨.inside, opened⟩ cs cs := by
  -- Only a quote or a backslash ends what a string is made of.
  refine lays_steady fun c member => ?_
  obtain ⟨line, quote, backslash⟩ := each c member
  exact ⟨by simp [Cursor.step, quote, backslash], line, nofun⟩

/-- An escape in a string is kept. -/
theorem lays_mark {mark : Char} (visible : mark ≠ '\n') :
    Lays indent ⟨.inside, opened⟩ ⟨.inside, opened⟩ ['\\', mark] ['\\', mark] := by
  -- A backslash leads to a place of its own, and any character leads back.
  have backslash : IsSolid ⟨.inside, opened⟩ '\\' := ⟨by decide, nofun⟩
  have escaped : IsSolid ⟨.escaped, opened⟩ mark := ⟨visible, nofun⟩
  exact (lays_char backslash).append (lays_char escaped)

/-- A character of a string is kept as it is escaped. -/
theorem lays_escape (c : Char) :
    Lays indent ⟨.inside, opened⟩ ⟨.inside, opened⟩ (escape c) (escape c) := by
  unfold escape
  split
  -- The last case has no mark of its own: a control character, or one that stands for itself.
  case h_8 quote backslash _ _ line _ _ =>
    split
    · -- The code of the character is written in digits behind its mark.
      rename_i control
      have digit : ∀ n < 16, n.digitChar ≠ '\n' ∧ n.digitChar ≠ '\x22' ∧ n.digitChar ≠ '\\' := by
        decide
      have zero := digit 0 (by decide)
      refine (lays_mark (by decide)).append (lays_inside ?_)
      simp only [List.forall_mem_cons, List.not_mem_nil, false_imp_iff, implies_true, and_true]
      exact ⟨zero, zero, digit _ (by omega), digit _ (by omega)⟩
    · refine lays_inside ?_
      rw [List.forall_mem_singleton]
      exact ⟨line, quote, backslash⟩
  all_goals exact lays_mark (by decide)

/-- A string is kept. -/
theorem lays_writeString (s : String) :
    Lays indent ⟨.outside, opened⟩ ⟨.outside, opened⟩ (writeString s) (writeString s) := by
  have body : Lays indent ⟨.inside, opened⟩ ⟨.inside, opened⟩ (s.toList.flatMap escape)
      (s.toList.flatMap escape) := by
    induction s.toList with
    | nil => exact .nil indent _
    | cons c cs ih => exact (lays_escape c).append ih
  -- The quotes lead into the string and out of it.
  have opening : IsSolid ⟨.outside, opened⟩ '\x22' := ⟨by decide, fun _ => by decide⟩
  have closing : IsSolid ⟨.inside, opened⟩ '\x22' := ⟨by decide, nofun⟩
  exact (lays_char opening).append (body.append (lays_char closing))

/-- A character that stands outside strings and is neither white space nor a bracket. -/
def isBare (c : Char) : Bool :=
  !(isFill c || c = '\x22' || opens c || closes c)

/-- Characters of a token that is no string are kept. -/
theorem lays_bare (each : ∀ c ∈ cs, isBare c) :
    Lays indent ⟨.outside, opened⟩ ⟨.outside, opened⟩ cs cs := by
  -- What is no bracket and no quote does not move the cursor outside strings.
  refine lays_steady fun c member => ?_
  have bare := each c member
  simp only [isBare, isFill, Bool.not_eq_eq_eq_not, Bool.not_true, Bool.or_eq_false_iff,
    decide_eq_false_iff_not] at bare
  obtain ⟨⟨⟨⟨space, line⟩, quote⟩, opening⟩, closing⟩ := bare
  exact ⟨by simp [Cursor.step, quote, opening, closing], line, fun _ => ⟨space, opening⟩⟩

end Tokens

/-- A document is laid out at a depth, begins with no white space and no closing bracket, and is
another text without its white space. -/
structure Laid (indent depth : Nat) (text compact : List Char) : Prop where
  head : ∃ c rest, text = c :: rest ∧ isFill c = false ∧ closes c = false
  lays : Lays indent ⟨.outside, depth⟩ ⟨.outside, depth⟩ text compact

section Blocks

variable {depth : Nat} {opening closing : Char}

/-- Brackets are those of an array or those of an object. -/
def IsPair (opening closing : Char) : Prop :=
  opening = '[' ∧ closing = ']' ∨ opening = '\x7b' ∧ closing = '\x7d'

/-- Spaces outside strings are left out. -/
theorem lays_spaces (count : Nat) :
    Lays indent ⟨.outside, opened⟩ ⟨.outside, opened⟩ (List.replicate count ' ') [] := by
  -- One space after the other is left out, and the cursor stays.
  induction count with
  | zero => exact .nil indent _
  | succ count ih =>
    have space : Lays indent ⟨.outside, opened⟩ ⟨.outside, opened⟩ [' '] [] :=
      ⟨rfl, ⟨⟨nofun, nofun⟩, trivial⟩, rfl⟩
    exact space.append ih

/-- A line break and the indentation behind it are left out. -/
theorem Lays.line {rest : List Char} (some : indent ≠ 0)
    (lays : Lays indent ⟨.outside, opened⟩ there (c :: rest) compact) (visible : c ≠ ' ') :
    Lays indent ⟨.outside, opened⟩ there
      (lineBreak indent (if closes c then opened - 1 else opened) ++ c :: rest) compact := by
  have indented := (@lays_spaces indent opened
    (indent * if closes c then opened - 1 else opened)).append lays
  rw [lineBreak, if_neg some]
  -- Neither the line break nor the spaces move the cursor.
  refine ⟨indented.scan, ⟨⟨?_, ?_⟩, indented.tidy⟩, indented.condensed⟩
  · intro _
    exact ⟨c, rest, rfl, visible⟩
  · intro _ bracket
    contradiction

/-- A document on a line of its own is left without the line break and the indentation. -/
theorem Laid.line (laid : Laid indent opened text compact) (some : indent ≠ 0) :
    Lays indent ⟨.outside, opened⟩ ⟨.outside, opened⟩ (lineBreak indent opened ++ text)
      compact := by
  obtain ⟨⟨c, rest, rfl, visible, begins⟩, lays⟩ := laid
  -- The first character is visible, so that the indentation ends in front of it.
  have space : c ≠ ' ' := by
    rintro rfl
    contradiction
  -- A document begins with no closing bracket, so its line is indented for all that is open.
  have line := lays.line some space
  rwa [begins, if_neg Bool.false_ne_true] at line

/-- The end of an array or object is kept. -/
theorem IsPair.lays_closing (pair : IsPair opening closing) :
    Lays indent ⟨.outside, depth + 1⟩ ⟨.outside, depth⟩ [closing] [closing] := by
  -- The bracket closes what was opened last.
  have solid : IsSolid ⟨.outside, depth + 1⟩ closing := by
    rcases pair with ⟨-, rfl⟩ | ⟨-, rfl⟩ <;> exact ⟨by decide, fun _ => by decide⟩
  have lays := @lays_char indent _ _ solid
  have leads : Cursor.step ⟨.outside, depth + 1⟩ closing = ⟨.outside, depth⟩ := by
    rcases pair with ⟨-, rfl⟩ | ⟨-, rfl⟩ <;> rfl
  rwa [leads] at lays

/-- The end of an array or object on a line of its own is indented as what is outside of it. -/
theorem IsPair.lays_end (pair : IsPair opening closing) (some : indent ≠ 0) :
    Lays indent ⟨.outside, depth + 1⟩ ⟨.outside, depth⟩ (lineBreak indent depth ++ [closing])
      [closing] := by
  -- A closing bracket counts as outside, which is one less than what is open.
  have visible : closing ≠ ' ' ∧ closes closing := by
    rcases pair with ⟨-, rfl⟩ | ⟨-, rfl⟩ <;> decide
  have ends : Lays indent ⟨.outside, depth + 1⟩ ⟨.outside, depth⟩ [closing] [closing] :=
    pair.lays_closing
  have line := ends.line some visible.1
  rwa [visible.2, if_pos rfl] at line

/-- The beginning of an array or object is kept in front of what is in it. -/
theorem IsPair.lays_opening (pair : IsPair opening closing) (tight : IsTight text)
    (lays : Lays indent ⟨.outside, depth + 1⟩ there text compact) :
    Lays indent ⟨.outside, depth⟩ there (opening :: text) (opening :: compact) := by
  -- The bracket opens what follows, and what follows it is tight.
  have leads : Cursor.step ⟨.outside, depth⟩ opening = ⟨.outside, depth + 1⟩ := by
    rcases pair with ⟨rfl, -⟩ | ⟨rfl, -⟩ <;> rfl
  have visible : opening ≠ '\n' ∧ isFill opening = false := by
    rcases pair with ⟨rfl, -⟩ | ⟨rfl, -⟩ <;> decide
  rw [← leads] at lays
  refine ⟨lays.scan, ⟨⟨fun line => absurd line visible.1, fun _ _ => tight⟩, lays.tidy⟩, ?_⟩
  rw [Cursor.condensed, visible.2, if_neg nofun, lays.condensed]

/-- The parts of an array or object behind its first are laid out in lines, and so is its end. -/
theorem IsPair.lays_parts (pair : IsPair opening closing) (some : indent ≠ 0)
    {parts compacts : List (List Char)}
    (each : List.Forall₂ (Laid indent (depth + 1)) parts compacts) :
    Lays indent ⟨.outside, depth + 1⟩ ⟨.outside, depth⟩
      (parts.flatMap (fun part => ',' :: lineBreak indent (depth + 1) ++ part) ++
        (lineBreak indent depth ++ [closing]))
      (compacts.flatMap (fun part => ',' :: part) ++ [closing]) := by
  have comma : IsSolid ⟨.outside, depth + 1⟩ ',' := ⟨by decide, fun _ => by decide⟩
  induction each with
  | nil => exact pair.lays_end some
  -- A comma stays on its line, and the part behind it has one of its own.
  | cons laid _ ih =>
    have next := ((lays_char comma).append (laid.line some)).append ih
    simpa using next

/-- A line break and its indentation are white space. -/
theorem isFill_lineBreak (indent depth : Nat) : ∀ c ∈ lineBreak indent depth, isFill c := by
  -- A line break is nothing, or a line feed and spaces.
  unfold lineBreak
  split
  · exact nofun
  · refine List.forall_mem_cons.mpr ⟨rfl, fun c member => ?_⟩
    rw [List.eq_of_mem_replicate member]
    rfl

/-- A bracket in front of a document on a line of its own closes nothing. -/
theorem Laid.isTight (laid : Laid indent depth text compact) (more : List Char) :
    IsTight (lineBreak indent depth ++ (text ++ more)) := by
  -- Behind the line break stands the first character of the document, which closes nothing.
  obtain ⟨⟨c, rest, rfl, visible, begins⟩, -⟩ := laid
  refine ⟨lineBreak indent depth, c, rest ++ more, rfl, isFill_lineBreak indent depth, visible, ?_⟩
  intro ends
  rw [begins] at ends
  contradiction

/-- Parts that are laid out make up an array or object that is. -/
theorem IsPair.laid_block (pair : IsPair opening closing) (some : indent ≠ 0)
    {parts compacts : List (List Char)}
    (each : List.Forall₂ (Laid indent (depth + 1)) parts compacts) :
    Laid indent depth (block opening closing indent depth parts)
      (block opening closing 0 depth compacts) := by
  have begins : isFill opening = false ∧ closes opening = false := by
    rcases pair with ⟨rfl, -⟩ | ⟨rfl, -⟩ <;> decide
  cases each with
  | nil =>
    -- Without parts the brackets stand next to each other.
    have tight : IsTight [closing] := by
      refine ⟨[], closing, [], rfl, nofun, ?_, fun _ => rfl⟩
      rcases pair with ⟨-, rfl⟩ | ⟨-, rfl⟩ <;> rfl
    exact ⟨⟨opening, [closing], rfl, begins⟩, pair.lays_opening tight pair.lays_closing⟩
  -- The first part follows the bracket, and the others each follow a comma.
  | cons first rest =>
    refine ⟨⟨opening, _, rfl, begins⟩, ?_⟩
    have inner := (first.line some).append (pair.lays_parts some rest)
    rw [List.append_assoc] at inner
    have outer := pair.lays_opening (first.isTight _) inner
    simpa [block, lineBreak] using outer

end Blocks

section Documents

variable {depth : Nat}

/-- A token outside strings that is no string is laid out as it is. -/
theorem laid_bare (nonempty : text ≠ []) (all : text.all isBare) :
    Laid indent depth text text := by
  obtain ⟨c, rest, rfl⟩ := List.exists_cons_of_ne_nil nonempty
  have each := List.all_eq_true.mp all
  -- Its first character is none of white space and brackets.
  have bare := each c List.mem_cons_self
  simp only [isBare, Bool.not_eq_eq_eq_not, Bool.not_true, Bool.or_eq_false_iff] at bare
  exact ⟨⟨c, rest, rfl, bare.1.1.1, bare.2⟩, lays_bare each⟩

/-- A character of a number is neither white space nor a quote nor a bracket. -/
theorem isBare_of_isNumberChar (number : isNumberChar c) : isBare c := by
  -- The special characters are few, and none of them stands in a number.
  by_contra special
  rw [Bool.not_eq_true, isBare, Bool.not_eq_false'] at special
  simp only [isFill, opens, closes, Bool.or_eq_true, decide_eq_true_eq] at special
  rcases special with (((rfl | rfl) | rfl) | rfl | rfl) | rfl | rfl
  all_goals exact absurd number (by decide)

/-- A number is laid out as it is. -/
theorem SpellsNumeral.laid {n : Numeral} (spelled : SpellsNumeral text n) :
    Laid indent depth text text := by
  -- A number has characters, and all are those of numbers.
  have nonempty : text ≠ [] := by
    obtain ⟨c, rest, rfl, -⟩ := spelled.head
    exact List.cons_ne_nil c rest
  refine laid_bare nonempty (List.all_eq_true.mpr ?_)
  intro c member
  exact isBare_of_isNumberChar (spelled.numberChars c member)

/-- The word for nothing is laid out as it is. -/
theorem laid_null : Laid indent depth "null".toList "null".toList :=
  laid_bare (by decide) (by decide)

/-- A floating point number is laid out as it is. -/
theorem laid_writeFloat (x : Binary64) : Laid indent depth (writeFloat x) (writeFloat x) := by
  cases x with
  | nan | infinite => exact laid_null
  | finite negative m =>
    -- A zero is written in one of two ways, and other numbers as numerals.
    rcases Nat.eq_zero_or_pos m.significand with zero | positive
    · rw [writeFloat, if_pos zero]
      cases negative <;> exact laid_bare (by decide) (by decide)
    · obtain ⟨numeral, -, spelled, -⟩ := exists_spellsNumeral_float positive negative
      exact spelled.laid

/-- A string is laid out as it is. -/
theorem laid_writeString (s : String) : Laid indent depth (writeString s) (writeString s) :=
  ⟨⟨'\x22', _, rfl, rfl, rfl⟩, lays_writeString s⟩

/-- A member is laid out with a space behind its colon where its value is laid out. -/
theorem Laid.member (laid : Laid indent depth text compact) (key : String) :
    Laid indent depth (writeString key ++ [':', ' '] ++ text)
      (writeString key ++ [':'] ++ compact) := by
  -- The space behind the colon is the only one outside strings that is no indentation.
  have colon : Lays indent ⟨.outside, depth⟩ ⟨.outside, depth⟩ [':', ' '] [':'] :=
    ⟨rfl, ⟨⟨nofun, nofun⟩, ⟨nofun, nofun⟩, trivial⟩, rfl⟩
  refine ⟨⟨'\x22', _, rfl, rfl, rfl⟩, ?_⟩
  exact ((lays_writeString key).append colon).append laid.lays

-- The induction follows the writer: at each depth, a document is made up of its parts one deeper.
mutual

/-- A document that is written in lines is laid out, and without its white space it is written on
one line. -/
theorem laid_write (some : indent ≠ 0) : (json : Json) → (depth : Nat) →
    Laid indent depth (json.write indent depth) (json.write 0 depth)
  | .null, _ => laid_null
  | .bool b, _ => by
    rw [write, write]
    cases b <;> exact laid_bare (by decide) (by decide)
  | .int n, _ => by
    obtain ⟨numeral, spelled, -⟩ := exists_spellsNumeral_int n
    exact spelled.laid
  | .float x, _ => laid_writeFloat x
  | .string s, _ => laid_writeString s
  -- Arrays and objects are blocks, whose parts are laid out one level deeper.
  | .array items, depth => by
    rw [write, write]
    exact IsPair.laid_block (.inl ⟨rfl, rfl⟩) some (laid_writeItems some items depth)
  | .object members, depth => by
    rw [write, write]
    exact IsPair.laid_block (.inr ⟨rfl, rfl⟩) some (laid_writeMembers some members depth)

/-- The items of an array are laid out one deeper. -/
theorem laid_writeItems (some : indent ≠ 0) : (items : List Json) → (depth : Nat) →
    List.Forall₂ (Laid indent (depth + 1)) (writeItems indent depth items)
      (writeItems 0 depth items)
  | [], _ => .nil
  | item :: items, depth => by
    rw [writeItems, writeItems]
    exact .cons (laid_write some item (depth + 1)) (laid_writeItems some items depth)

/-- The members of an object are laid out one deeper. -/
theorem laid_writeMembers (some : indent ≠ 0) : (members : List (String × Json)) → (depth : Nat) →
    List.Forall₂ (Laid indent (depth + 1)) (writeMembers indent depth members)
      (writeMembers 0 depth members)
  | [], _ => .nil
  | (key, value) :: members, depth => by
    rw [writeMembers, writeMembers, if_neg some, if_pos rfl]
    exact .cons ((laid_write some value (depth + 1)).member key)
      (laid_writeMembers some members depth)

end

end Documents

section Text

/-- What holds at each character of a text holds wherever the text is split. -/
theorem Cursor.Each.split {P : Cursor → Char → List Char → Prop} {front behind : List Char}
    (each : Each P here (front ++ c :: behind)) : P (here.scan front) c behind := by
  induction front generalizing here with
  | nil => exact each.1
  | cons first front ih => exact ih each.2

/-- A line break opens and closes nothing. -/
theorem opened_scan_line (here : Cursor) (front : List Char) :
    (here.scan (front ++ ['\n'])).opened = (here.scan front).opened := by
  -- A line break changes at most the place in a string.
  rw [Cursor.scan, List.foldl_append, Cursor.scan]
  obtain ⟨place, opened⟩ := front.foldl Cursor.step here
  cases place <;> rfl

/-- A text has its lines indented for the arrays and objects that are open where they begin, and
leaves no space in empty ones. -/
structure IsPretty (indent : Nat) (text : List Char) : Prop where
  lines : ∀ front line, text = front ++ line → front = [] ∨ front.getLast? = some '\n' →
    IsIndented indent (Cursor.start.scan front).opened line
  tight : ∀ front opening gap closing behind,
    text = front ++ opening :: (gap ++ closing :: behind) →
    (Cursor.start.scan front).place = .outside → opens opening → closes closing →
    (∀ c ∈ gap, isFill c) → gap = []

/-- No space stands between brackets that are tight. -/
theorem IsTight.gap_eq_nil {gap behind : List Char} {closing : Char}
    (tight : IsTight (gap ++ closing :: behind)) (ends : closes closing)
    (fill : ∀ c ∈ gap, isFill c) : gap = [] := by
  obtain ⟨space, next, rest, same, white, visible, empty⟩ := tight
  have stops : isFill closing = false := by
    simp only [closes, Bool.or_eq_true, decide_eq_true_eq] at ends
    rcases ends with rfl | rfl <;> rfl
  have first : ∀ c ∈ (closing :: behind).head?, isFill c = false := by
    rintro c ⟨⟩
    exact stops
  have second : ∀ c ∈ (next :: rest).head?, isFill c = false := by
    rintro c ⟨⟩
    exact visible
  -- Both are the white space in front of the same character.
  obtain ⟨taken, dropped⟩ := takeWhile_dropWhile_append fill first
  obtain ⟨took, left⟩ := takeWhile_dropWhile_append white second
  rw [same, took] at taken
  rw [same, left] at dropped
  obtain ⟨rfl, -⟩ := List.cons.inj dropped
  rw [← taken]
  exact empty ends

/-- A document that is laid out from its start is pretty. -/
theorem Laid.isPretty (laid : Laid indent 0 text compact) : IsPretty indent text := by
  obtain ⟨⟨first, others, begins, visible, opening⟩, lays⟩ := laid
  constructor
  · rintro front line split (rfl | last)
    · -- The first line begins with the document.
      rw [List.nil_append] at split
      refine ⟨first, others, ?_, ?_⟩
      · rw [← split, begins, opening]
        rfl
      · rintro rfl
        contradiction
    -- Any other line begins behind a line break, where the layout tells its indentation.
    · obtain ⟨before, rfl⟩ := List.getLast?_eq_some_iff.mp last
      rw [List.append_assoc] at split
      rw [opened_scan_line]
      exact (split ▸ lays.tidy).split.line rfl
  · intro front bracket gap closing behind split outside bracketed ends fill
    exact ((split ▸ lays.tidy).split.empty outside bracketed).gap_eq_nil ends fill

end Text

end TextTemplate.Json
