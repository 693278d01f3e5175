import TextTemplate.Formatter
import TextTemplate.Proofs.Template.Nodes
import TextTemplate.Proofs.Template.Rendering

/-! Calls of a formatter one after the other, with the templates and the results they leave. -/

namespace TextTemplate

/-- A call of a formatter. -/
inductive Request where
  | parse (source : String)
  | render (source : String) (args : List Value)

/-- The text that a call asks about. -/
def Request.source : Request → String
  | .parse source | .render source _ => source

/-- What a call returns, where a template comes as a value of a given type. -/
inductive Reply (α : Type) where
  | parsed (result : Except ParseError α)
  | rendered (result : Except FormatError String)

/-- A reply with another value for its template. -/
def Reply.map {α β : Type} (f : α → β) : Reply α → Reply β
  | .parsed result => .parsed (result.map f)
  | .rendered result => .rendered result

/-- A call with its reply, and the calls of deferred values made by then. -/
structure Step (α : Type) where
  request : Request
  reply : Reply α
  calls : CallHistory

/-- A step with another value for the template of its reply. -/
def Step.map {α β : Type} (f : α → β) (step : Step α) : Step β :=
  ⟨step.request, step.reply.map f, step.calls⟩

/-- Replies to a call without a formatter. -/
def Request.answer : Request → Calls (Reply Template)
  | .parse source => return .parsed (Template.parse source)
  | .render source args => return .rendered (← format source args)

/-- Replies to calls one after the other without a formatter. -/
def answerAll : List Request → Calls (List (Step Template))
  | [] => return []
  | request :: requests => do
    let reply ← request.answer
    let calls ← get
    return ⟨request, reply, calls⟩ :: (← answerAll requests)

namespace Formatter

/-- Replies to a call. A template comes with its slot, which tells it from all others. -/
def perform (formatter : Formatter) : Request → Calls (Reply (Template × Nat) × Formatter)
  | .parse source =>
    match formatter.parse source with
    | (result, formatter) => return (.parsed result, formatter)
  | .render source args => do
    let (result, formatter) ← formatter.render source args
    return (.rendered result, formatter)

/-- Replies to calls one after the other. -/
def run (formatter : Formatter) : List Request →
    Calls (List (Step (Template × Nat)) × Formatter)
  | [] => return ([], formatter)
  | request :: requests => do
    let (reply, formatter) ← formatter.perform request
    let calls ← get
    let (steps, formatter) ← formatter.run requests
    return (⟨request, reply, calls⟩ :: steps, formatter)

/-- A formatter keeps exactly the templates among some texts, each of them once under its text. -/
structure Keeps (formatter : Formatter) (sources : List String) : Prop where
  mem_iff : ∀ key template, (key, template) ∈ formatter.entries ↔
    key ∈ sources ∧ Template.parse key = .ok template
  distinct : (formatter.entries.map Prod.fst).Nodup

end Formatter

@[simp] theorem outcome_get (before : CallHistory) :
    Calls.outcome get before = (before, before) := rfl

/-- A template has the text that it is read from. -/
theorem parse_source {source : String} {template : Template}
    (parsed : Template.parse source = .ok template) : template.source = source := by
  obtain ⟨_, _, rfl⟩ := parse_eq_ok_iff.mp parsed
  rfl

namespace Formatter

variable {formatter : Formatter} {source : String} {sources : List String}

/-- An empty formatter keeps the templates among no texts. -/
theorem keeps_empty : empty.Keeps [] :=
  ⟨by simp [empty], by simp [empty]⟩

/-- What is found under a text stands in its slot. -/
theorem find?_entry {template : Template} {slot : Nat}
    (found : formatter.find? source = some (template, slot)) :
    formatter.entries[slot]? = some (source, template) := by
  obtain ⟨⟨⟨key, kept⟩, place⟩, first, same⟩ := Option.map_eq_some_iff.mp found
  cases same
  -- The search ends at an entry of the list whose key is the text.
  have named : key = source := by simpa using List.find?_some first
  rw [← named]
  exact List.mem_zipIdx_iff_getElem?.mp (List.mem_of_find?_eq_some first)

/-- Nothing is found under a text that is no key. -/
theorem find?_eq_none_iff :
    formatter.find? source = none ↔ source ∉ formatter.entries.map Prod.fst := by
  simp only [find?, Option.map_eq_none_iff, List.find?_eq_none, decide_eq_true_eq]
  constructor
  -- An entry with this key would have ended the search.
  · intro missed member
    obtain ⟨entry, inside, named⟩ := List.mem_map.mp member
    obtain ⟨slot, stands⟩ := List.mem_iff_getElem?.mp inside
    exact missed (entry, slot) (List.mk_mem_zipIdx_iff_getElem?.mpr stands) named
  -- The search only ends at an entry with this key.
  · intro fresh entry inside named
    exact fresh (named ▸ List.mem_map_of_mem (List.fst_mem_of_mem_zipIdx inside))

/-- A template is found in its slot under its key, where no two keys are the same. -/
theorem find?_eq_some_iff (distinct : (formatter.entries.map Prod.fst).Nodup)
    {template : Template} {slot : Nat} :
    formatter.find? source = some (template, slot) ↔
      formatter.entries[slot]? = some (source, template) := by
  refine ⟨find?_entry, fun kept => ?_⟩
  -- The search ends at some entry of this key, and there is only one.
  cases found : formatter.find? source with
  | none =>
    have member := List.mem_map_of_mem (f := Prod.fst) (List.mem_of_getElem? kept)
    exact absurd member (find?_eq_none_iff.mp found)
  | some pair =>
    obtain ⟨other, place⟩ := pair
    have keptToo := find?_entry found
    have within : slot < (formatter.entries.map Prod.fst).length := by
      rw [List.length_map]
      exact (List.getElem?_eq_some_iff.mp kept).1
    have slots : slot = place :=
      (List.getElem?_inj within distinct).mp (by simp [kept, keptToo])
    subst slots
    rw [kept] at keptToo
    cases keptToo
    rfl

/-- A text is found as it is kept, or it is read and kept behind all others if it is a template. -/
theorem parse_cases (formatter : Formatter) (source : String) :
    (∃ kept, formatter.find? source = some kept ∧
      formatter.parse source = (.ok kept, formatter)) ∨
    (formatter.find? source = none ∧ ∃ template, Template.parse source = .ok template ∧
      formatter.parse source =
        (.ok (template, formatter.size), ⟨formatter.entries ++ [(source, template)]⟩)) ∨
    (formatter.find? source = none ∧ ∃ error, Template.parse source = .error error ∧
      formatter.parse source = (.error error, formatter)) := by
  -- The search decides whether the text is read at all.
  unfold parse
  cases found : formatter.find? source with
  | some kept => exact .inl ⟨kept, rfl, rfl⟩
  | none =>
    cases read : Template.parse source with
    | ok template => exact .inr (.inl ⟨rfl, template, rfl, rfl⟩)
    | error error => exact .inr (.inr ⟨rfl, error, rfl, rfl⟩)

/-- Every template is kept under the text that it is read from. -/
theorem Keeps.source_eq (keeps : formatter.Keeps sources) {key : String} {template : Template}
    (member : (key, template) ∈ formatter.entries) : template.source = key :=
  parse_source ((keeps.mem_iff key template).mp member).2

/-- A text that is found was read as the template that is kept. -/
theorem Keeps.find (keeps : formatter.Keeps sources) {template : Template} {slot : Nat}
    (found : formatter.find? source = some (template, slot)) :
    source ∈ sources ∧ Template.parse source = .ok template :=
  (keeps.mem_iff source template).mp (List.mem_of_getElem? (find?_entry found))

/-- A template among the texts is found. -/
theorem Keeps.exists_find (keeps : formatter.Keeps sources) (member : source ∈ sources)
    {template : Template} (read : Template.parse source = .ok template) :
    ∃ slot, formatter.find? source = some (template, slot) := by
  -- It is kept somewhere, and where it is kept it is found.
  have kept := (keeps.mem_iff source template).mpr ⟨member, read⟩
  obtain ⟨slot, stands⟩ := List.mem_iff_getElem?.mp kept
  exact ⟨slot, (find?_eq_some_iff keeps.distinct).mpr stands⟩

/-- A formatter answers with the template that is read from the text. -/
theorem Keeps.answer (keeps : formatter.Keeps sources) (source : String) :
    (formatter.parse source).1.map Prod.fst = Template.parse source := by
  -- What is found is what would be read, and what is not found is read.
  rcases formatter.parse_cases source with
    ⟨⟨template, slot⟩, found, same⟩ | ⟨_, template, read, same⟩ | ⟨_, error, read, same⟩
  · rw [same, (keeps.find found).2]
    rfl
  · rw [same, read]
    rfl
  · rw [same, read]
    rfl

/-- A formatter keeps the templates among the texts it was asked about and the next one. -/
theorem Keeps.parse (keeps : formatter.Keeps sources) (source : String) :
    (formatter.parse source).2.Keeps (sources ++ [source]) := by
  rcases formatter.parse_cases source with
    ⟨⟨template, slot⟩, found, same⟩ | ⟨missed, template, read, same⟩ | ⟨_, error, read, same⟩
  · -- The text is among the earlier ones.
    have earlier := (keeps.find found).1
    rw [same]
    refine ⟨fun key other => ?_, keeps.distinct⟩
    rw [keeps.mem_iff, List.mem_append, List.mem_singleton]
    exact and_congr_left fun _ => ⟨.inl, fun either => either.elim id (· ▸ earlier)⟩
  · -- The new key is different from all others, and its template is what is read from it.
    have fresh := find?_eq_none_iff.mp missed
    rw [same]
    refine ⟨fun key other => ?_, ?_⟩
    · rw [List.mem_append, List.mem_singleton, keeps.mem_iff, List.mem_append,
        List.mem_singleton, Prod.mk.injEq]
      constructor
      · rintro (⟨earlier, parsed⟩ | ⟨rfl, rfl⟩)
        · exact ⟨.inl earlier, parsed⟩
        · exact ⟨.inr rfl, read⟩
      · rintro ⟨earlier | rfl, parsed⟩
        · exact .inl ⟨earlier, parsed⟩
        · rw [read] at parsed
          cases parsed
          exact .inr ⟨rfl, rfl⟩
    · rw [List.map_append, List.map_singleton]
      refine List.nodup_append.mpr ⟨keeps.distinct, by simp, ?_⟩
      intro text member other last equal
      have named : text = source := equal.trans (List.mem_singleton.mp last)
      exact fresh (named ▸ member)
  · -- A text that is no template is kept neither before nor after.
    rw [same]
    refine ⟨fun key other => ?_, keeps.distinct⟩
    rw [keeps.mem_iff, List.mem_append, List.mem_singleton]
    refine and_congr_left fun parsed => ⟨.inl, fun either => either.elim id fun last => ?_⟩
    rw [last, read] at parsed
    cases parsed

/-- A text that is no template leaves the formatter as it was. -/
theorem parse_error_formatter {error : ParseError} (read : Template.parse source = .error error) :
    (formatter.parse source).2 = formatter := by
  -- Nothing is kept of what cannot be read.
  rcases formatter.parse_cases source with
    ⟨_, _, same⟩ | ⟨_, _, parsed, _⟩ | ⟨_, _, _, same⟩
  · rw [same]
  · rw [read] at parsed
    cases parsed
  · rw [same]

/-- Kept templates stay in their slots. -/
theorem parse_extends (formatter : Formatter) (source : String) :
    formatter.entries <+: (formatter.parse source).2.entries := by
  -- An entry is only ever put behind the others.
  rcases formatter.parse_cases source with ⟨_, _, same⟩ | ⟨_, _, _, same⟩ | ⟨_, _, _, same⟩ <;>
    simp [same]

/-- A template stands under its text in the slot that it comes with. -/
theorem parse_slot {template : Template} {slot : Nat}
    (answered : (formatter.parse source).1 = .ok (template, slot)) :
    (formatter.parse source).2.entries[slot]? = some (source, template) := by
  -- What is found stands where it is kept, and what is new stands behind all others.
  rcases formatter.parse_cases source with
    ⟨kept, found, same⟩ | ⟨_, other, read, same⟩ | ⟨_, _, _, same⟩
  · rw [same] at answered ⊢
    cases answered
    exact find?_entry found
  · rw [same] at answered ⊢
    cases answered
    simp [size]
  · rw [same] at answered
    cases answered

end Formatter

end TextTemplate
