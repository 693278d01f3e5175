/-! Named entries keep the order in which their names first came. -/

namespace TextTemplate

/-- Values under names, in order. -/
abbrev Entries (α : Type) := List (String × α)

namespace Entries

variable {α : Type}

/-- The names in order. -/
def keys (entries : Entries α) : List String :=
  entries.map Prod.fst

/-- The value under a name. -/
def get? (entries : Entries α) (key : String) : Option α :=
  List.lookup key entries

/-- Puts a value under a name, which keeps its place if it has one and else comes last. -/
def insert (entries : Entries α) (key : String) (value : α) : Entries α :=
  match entries with
  | [] => [(key, value)]
  | (name, old) :: rest =>
    if name = key then (name, value) :: rest else (name, old) :: insert rest key value

/-- Puts several values under their names, one after the other. -/
def insertAll (entries added : Entries α) : Entries α :=
  added.foldl (fun entries (key, value) => entries.insert key value) entries

/-- Entries of which a repeated name keeps its first place and its last value. -/
def ofList (pairs : List (String × α)) : Entries α :=
  insertAll [] pairs

/-- The entries in the order of their names. -/
def sorted (entries : Entries α) : Entries α :=
  -- Texts compare by code points, which is the order of their bytes in UTF-8.
  entries.mergeSort fun left right => decide (left.1 ≤ right.1)

end Entries

end TextTemplate
