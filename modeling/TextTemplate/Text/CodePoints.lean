/-! Sets of characters are written as ranges of code points. -/

namespace TextTemplate

/-- A set of characters, given by inclusive ranges of code points. -/
structure CodePoints where
  ranges : List (Nat × Nat)

/-- Whether a character belongs to a set. -/
def CodePoints.has (set : CodePoints) (c : Char) : Bool :=
  set.ranges.any fun (first, last) => first ≤ c.toNat && c.toNat ≤ last

end TextTemplate
