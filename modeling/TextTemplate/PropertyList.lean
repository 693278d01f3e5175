import TextTemplate.Entries
import TextTemplate.Text.Blank

/-! Property lists hold named texts on one line, as in "name=Ann;age=32". -/

namespace TextTemplate.PropertyList

/-- A sign of a property list, once escapes are resolved. -/
inductive Symbol where
  /-- A semicolon, which ends a pair. -/
  | separator
  /-- An equals sign, which ends a key. -/
  | assign
  | char (c : Char)
  deriving DecidableEq, Repr

/-- The character that a backslash and a character stand for. -/
def unescape : Char → Char
  | 't' => '\t'
  | 'n' => '\n'
  | 'r' => '\r'
  | c => c

/-- The signs of a text, where a backslash takes away the meaning of what follows it. -/
def symbols : List Char → List Symbol
  | [] => []
  -- A backslash at the end has nothing to act on.
  | ['\\'] => []
  | '\\' :: c :: rest => .char (unescape c) :: symbols rest
  | ';' :: rest => .separator :: symbols rest
  | '=' :: rest => .assign :: symbols rest
  | c :: rest => .char c :: symbols rest

/-- How far a list has been read. -/
structure Progress where
  /-- The pairs that are complete. -/
  entries : Entries String
  /-- The key of the pair that is being read, once its equals sign has come. -/
  key : Option String
  /-- The text since the last sign that ended one, if any has come. -/
  part : Option (List Char)

/-- Nothing has been read. -/
def Progress.start : Progress :=
  ⟨[], none, none⟩

/-- A key is kept without the white space around it. -/
def keyText (part : List Char) : String :=
  .ofList (trim part)

/-- Adds a pair, unless its key is empty. -/
def commit (entries : Entries String) (key value : String) : Entries String :=
  if key = "" then entries else entries.insert key value

/-- The pairs when the pair that is being read ends here. -/
def Progress.finish (progress : Progress) : Entries String :=
  match progress.key, progress.part with
  | some key, part => commit progress.entries key (.ofList (part.getD []))
  -- A text without an equals sign is a key.
  | none, some part => commit progress.entries (keyText part) ""
  | none, none => progress.entries

/-- Reads one sign. -/
def Progress.step (progress : Progress) : Symbol → Progress
  | .separator => ⟨progress.finish, none, none⟩
  | .assign =>
    match progress.part with
    -- An equals sign where no text has come starts an empty one.
    | none => { progress with part := some [] }
    | some part => { progress with key := some (keyText part), part := none }
  | .char c => { progress with part := some (progress.part.getD [] ++ [c]) }

/-- The pairs of a property list, where a repeated key keeps its place and takes the last value. -/
def decode (source : String) : Entries String :=
  ((symbols source.toList).foldl Progress.step .start).finish

end TextTemplate.PropertyList
