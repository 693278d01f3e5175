import Mathlib.Data.List.TakeWhile

/-! Leading characters of a class are split off a text. -/

namespace TextTemplate

/-- Leading characters of a class are split off in full where another character follows. -/
theorem takeWhile_dropWhile_append {p : Char → Bool} {front back : List Char}
    (inside : ∀ c ∈ front, p c) (stops : ∀ c ∈ back.head?, p c = false) :
    (front ++ back).takeWhile p = front ∧ (front ++ back).dropWhile p = back := by
  rw [List.takeWhile_append_of_pos inside, List.dropWhile_append_of_pos inside]
  -- What is left after the front is a back that stops at once.
  cases back with
  | nil => simp
  | cons c back => simp [stops c rfl]

/-- What is left behind leading characters of a class begins with none of it. -/
theorem head?_dropWhile_stops (p : Char → Bool) (cs : List Char) :
    ∀ c ∈ (cs.dropWhile p).head?, p c = false := by
  -- The first character that is left was not dropped.
  intro c first
  have stopped := List.head?_dropWhile_not p cs
  rw [Option.mem_def.mp first] at stopped
  simpa using stopped

end TextTemplate
