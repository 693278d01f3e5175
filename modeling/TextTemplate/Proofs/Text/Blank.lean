import Mathlib.Data.List.DropRight
import TextTemplate.Proofs.Text.Leading
import TextTemplate.Text.Blank

/-! White space at the ends of a text is taken off, and a text without it there stays as it is. -/

namespace TextTemplate

/-- Taking white space off one end and then the other leaves none to take off. -/
theorem trim_trim (cs : List Char) : trim (trim cs) = trim cs := by
  -- What is left begins as the text does once its front is dropped.
  have front : (trim cs).dropWhile isBlank = trim cs := by
    rw [List.dropWhile_eq_self_iff]
    intro nonempty blank
    obtain ⟨back, split⟩ := List.rdropWhile_prefix isBlank (cs.dropWhile isBlank)
    change trim cs ++ back = cs.dropWhile isBlank at split
    have long : 0 < (cs.dropWhile isBlank).length := by
      rw [← split, List.length_append]
      omega
    have first : (cs.dropWhile isBlank)[0] = (trim cs)[0] := by
      simp only [← split, List.getElem_append_left nonempty]
    have stopped := List.dropWhile_eq_self_iff.mp (List.dropWhile_idempotent isBlank cs) long
    rw [first] at stopped
    exact stopped blank
  show List.rdropWhile isBlank ((trim cs).dropWhile isBlank) = trim cs
  rw [front]
  exact List.rdropWhile_idempotent isBlank _

/-- White space around a text that holds none is taken off. -/
theorem trim_surrounded {front body back : List Char} (before : ∀ c ∈ front, isBlank c)
    (after : ∀ c ∈ back, isBlank c) (visible : ∀ c ∈ body, isBlank c = false)
    (nonempty : body ≠ []) : trim (front ++ (body ++ back)) = body := by
  obtain ⟨first, rest, rfl⟩ := List.exists_cons_of_ne_nil nonempty
  have starts : ∀ c ∈ (first :: rest ++ back).head?, isBlank c = false := by
    intro c leads
    cases leads
    exact visible _ List.mem_cons_self
  rw [trim, (takeWhile_dropWhile_append before starts).2, List.reverse_append]
  -- From the back, the text is read in the same way.
  have behind : ∀ c ∈ back.reverse, isBlank c := fun c member =>
    after c (List.mem_reverse.mp member)
  have ends : ∀ c ∈ (first :: rest).reverse.head?, isBlank c = false := fun c last =>
    visible c (List.mem_reverse.mp (List.mem_of_mem_head? last))
  rw [(takeWhile_dropWhile_append behind ends).2, List.reverse_reverse]

/-- A text that holds no white space stays as it is. -/
theorem trim_visible {cs : List Char} (visible : ∀ c ∈ cs, isBlank c = false) : trim cs = cs := by
  by_cases empty : cs = []
  · rw [empty]
    rfl
  · have nothing : ∀ c ∈ ([] : List Char), isBlank c := nofun
    -- It is surrounded by nothing.
    have trimmed := trim_surrounded nothing nothing visible empty
    rwa [List.nil_append, List.append_nil] at trimmed

/-- White space that is looked for in a text and not found is not in it. -/
theorem visible_of_not_any {cs : List Char} (none : cs.any isBlank = false) :
    ∀ c ∈ cs, isBlank c = false :=
  fun c member => Bool.eq_false_iff.mpr (List.any_eq_false.mp none c member)

/-- A digit is no white space. -/
theorem isBlank_of_isDigit {c : Char} (digit : c.isDigit) : isBlank c = false := by
  simp only [Char.isDigit, Bool.and_eq_true, decide_eq_true_eq, ge_iff_le,
    UInt32.le_iff_toNat_le] at digit
  have least : 48 ≤ c.toNat := digit.1
  have most : c.toNat ≤ 57 := digit.2
  -- Each range of white space ends before the digits or begins behind them.
  simp only [isBlank, CodePoints.has, whiteSpace, List.any_cons, List.any_nil, Bool.or_false,
    Bool.or_eq_false_iff, Bool.and_eq_false_imp, decide_eq_true_eq, decide_eq_false_iff_not, not_le]
  omega

end TextTemplate
