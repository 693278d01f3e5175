import TextTemplate.Proofs.Json.Layout
import TextTemplate.Proofs.Value.Dump

/-! A dump with an indentation is the dump on one line with white space between its tokens. -/

namespace TextTemplate

open Json (Cursor IsPretty)

variable {request : Placeholder} {value : Value}

/-- The dump of a value without deferred values is its document as it is written. -/
theorem Value.exists_dump_write (free : value.isCallFree) :
    ∃ json : Json, ∀ indent, value.dump indent = pure (json.write indent 0) := by
  -- Without calls the document is there from the start, and only its layout depends on the
  -- indentation.
  obtain ⟨json, dumped⟩ := value.toJson_settles free
  refine ⟨json, fun indent => ?_⟩
  rw [dump, dumped]
  rfl

/-- With an indentation, a value without deferred values is dumped with its lines indented, and
without the white space outside strings the text is the dump of the value on one line. -/
theorem render_json_pretty (asked : request.conversion = .json) {indent : Nat}
    (given : (request.precision <|> request.width) = some indent) (some : 1 ≤ indent)
    (free : value.isCallFree) :
    ∃ text, request.render value = pure (.ok text) ∧ IsPretty (min indent 10) text ∧
      { request with width := none, precision := none }.render value =
        pure (.ok (Cursor.start.condensed text)) := by
  -- An indentation of more than ten is cut to ten, and none is excluded.
  have narrow : min indent 10 ≠ 0 := by omega
  have indentation : request.indent = min indent 10 := by
    rw [Placeholder.indent, given]
    rfl
  obtain ⟨json, dumped⟩ := Value.exists_dump_write free
  -- The writer lays the document out at its start, where nothing is open.
  have laid := Json.laid_write narrow json 0
  refine ⟨json.write (min indent 10) 0, ?_, laid.isPretty, ?_⟩
  · rw [render_dump asked, dumped, indentation]
    rfl
  · let compact : Placeholder := { request with width := none, precision := none }
    have line : compact.render value = do return .ok (← value.dump 0) :=
      render_json asked rfl rfl
    rw [line, dumped, pure_bind, Cursor.start, laid.lays.condensed]

/-- Brackets and spaces in strings are not taken for those of the document. -/
theorem render_json_pretty_nested :
    ∃ value text, value = .map [("a b", .list [.list [], .text "[\n"]), ("", .map [])] ∧
      { Placeholder.plain .next .json with precision := some 2 }.render value =
        pure (.ok text) ∧
      text = ("\x7b\n  \x22a b\x22: [\n    [],\n    \x22[\\n\x22\n  ],\n" ++
        "  \x22\x22: \x7b\x7d\n\x7d").toList ∧
      Cursor.start.condensed text =
        "\x7b\x22a b\x22:[[],\x22[\\n\x22],\x22\x22:\x7b\x7d\x7d".toList ∧
      IsPretty 2 text := by
  let request := { Placeholder.plain .next .json with precision := some 2 }
  let value : Value := .map [("a b", .list [.list [], .text "[\n"]), ("", .map [])]
  obtain ⟨text, shown, pretty, -⟩ :=
    @render_json_pretty request value rfl 2 rfl (by decide) (by decide)
  -- The theorem says how the text is laid out, and evaluation says which text it is.
  have evaluated : ((request.render value).outcome .empty).1.toOption =
      some ("\x7b\n  \x22a b\x22: [\n    [],\n    \x22[\\n\x22\n  ],\n" ++
        "  \x22\x22: \x7b\x7d\n\x7d").toList := by
    decide +kernel
  rw [shown] at evaluated
  obtain rfl := Option.some.inj evaluated
  exact ⟨value, _, rfl, shown, rfl, by decide +kernel, pretty⟩

end TextTemplate
