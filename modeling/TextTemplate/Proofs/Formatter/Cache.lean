import Mathlib.Data.List.Dedup
import TextTemplate.Proofs.Formatter.Run

/-! A formatter answers as if it kept nothing, and keeps each template that it was asked about. -/

namespace TextTemplate.Formatter

variable {formatter : Formatter} {sources : List String}

/-- A call leaves the formatter as reading its text does, whatever comes of the rendering. -/
theorem perform_formatter (formatter : Formatter) (request : Request) (before : CallHistory) :
    ((formatter.perform request).outcome before).1.2 = (formatter.parse request.source).2 := by
  cases request with
  | parse source => rfl
  | render source args =>
    simp only [perform, render, Request.source, outcome_bind]
    -- The template is rendered only where there is one, and the formatter is left alone.
    rcases formatter.parse source with ⟨result, behind⟩
    cases result <;> rfl

/-- A call is answered as without a formatter, with the same calls of deferred values. -/
theorem Keeps.perform (keeps : formatter.Keeps sources) (request : Request)
    (before : CallHistory) :
    ((fun (reply, _) => reply.map Prod.fst) <$> formatter.perform request).outcome before =
      request.answer.outcome before := by
  -- The text is read with the same result, and rendering does not look at the formatter.
  cases request with
  | parse source =>
    have answer := keeps.answer source
    rcases same : formatter.parse source with ⟨result, behind⟩
    rw [same] at answer
    simp only [Formatter.perform, Request.answer, same, outcome_map, outcome_pure, Reply.map,
      answer]
  | render source args =>
    have answer := keeps.answer source
    rcases same : formatter.parse source with ⟨result, behind⟩
    rw [same] at answer
    simp only [Formatter.perform, render, Request.answer, format, same, ← answer]
    cases result with
    | error error => rfl
    | ok kept => rfl

/-- The template that a call returns stands under its text in the slot that it comes with. -/
theorem perform_slot {request : Request} {before : CallHistory} {template : Template} {slot : Nat}
    (answered : ((formatter.perform request).outcome before).1.1 =
      .parsed (.ok (template, slot))) :
    ((formatter.perform request).outcome before).1.2.entries[slot]? =
      some (request.source, template) := by
  rw [perform_formatter]
  cases request with
  | parse source =>
    -- The slot that comes with a template is the one that its text has from then on.
    exact parse_slot (Reply.parsed.inj answered)
  | render source args =>
    -- Only calls that ask for a template return one.
    simp only [Formatter.perform, outcome_bind, outcome_pure] at answered
    cases answered

/-- A call for a text that is a template leaves the template kept. -/
theorem Keeps.perform_find (keeps : formatter.Keeps sources) {request : Request}
    {template : Template} (read : Template.parse request.source = .ok template)
    (before : CallHistory) :
    ∃ slot, ((formatter.perform request).outcome before).1.2.find? request.source =
      some (template, slot) := by
  -- Rendering changes nothing of what reading has kept.
  rw [perform_formatter]
  exact (keeps.parse request.source).exists_find (by simp) read

/-- A call fails in rendering only where its text is a template. -/
theorem Keeps.rendered_read (keeps : formatter.Keeps sources) {request : Request}
    {before : CallHistory} {error : RenderError}
    (failed : ((formatter.perform request).outcome before).1.1 =
      .rendered (.error (.render error))) :
    ∃ template, Template.parse request.source = .ok template := by
  -- Without a formatter the call fails alike, and a text that is no template fails in reading.
  have answer := keeps.perform request before
  rw [outcome_map] at answer
  simp only [failed, Reply.map] at answer
  cases request with
  | parse source => cases (congrArg Prod.fst answer)
  | render source args =>
    cases read : Template.parse source with
    | ok template => exact ⟨template, read⟩
    | error fault =>
      simp only [Request.answer, format, read, outcome_bind, outcome_pure] at answer
      cases (congrArg Prod.fst answer)

/-- The first of several calls is answered, and the others with the templates that it leaves. -/
theorem run_cons (formatter : Formatter) (request : Request) (requests : List Request)
    (before : CallHistory) :
    (formatter.run (request :: requests)).outcome before =
      match (formatter.perform request).outcome before with
      | ((reply, middle), calls) =>
        match (middle.run requests).outcome calls with
        | ((steps, last), after) => ((⟨request, reply, calls⟩ :: steps, last), after) := rfl

/-- Calls are answered as without a formatter, with the same calls of deferred values. -/
theorem Keeps.run_answer (keeps : formatter.Keeps sources) (requests : List Request)
    (before : CallHistory) :
    ((fun (steps, _) => steps.map (Step.map Prod.fst)) <$> formatter.run requests).outcome before =
      (answerAll requests).outcome before := by
  induction requests generalizing formatter sources before with
  | nil => rfl
  | cons request requests ih =>
    -- The first call is answered alike, and leaves a formatter of the same kind.
    have first := keeps.perform request before
    have behind := keeps.parse request.source
    rw [← perform_formatter formatter request before] at behind
    rw [outcome_map, run_cons, answerAll, outcome_bind, ← first, outcome_map]
    generalize (formatter.perform request).outcome before = result at behind
    obtain ⟨⟨reply, middle⟩, calls⟩ := result
    have rest := ih behind calls
    rw [outcome_map] at rest
    simp only [outcome_bind, outcome_get, outcome_pure, ← rest, List.map_cons]
    rfl

/-- Behind calls, a formatter keeps the templates among the texts of all of them. -/
theorem Keeps.run (keeps : formatter.Keeps sources) (requests : List Request)
    (before : CallHistory) :
    ((formatter.run requests).outcome before).1.2.Keeps
      (sources ++ requests.map Request.source) := by
  -- Each call adds its text, also one that is no template.
  induction requests generalizing formatter sources before with
  | nil =>
    rw [List.map_nil, List.append_nil]
    exact keeps
  | cons request requests ih =>
    have behind := keeps.parse request.source
    rw [← perform_formatter formatter request before] at behind
    have rest := ih behind ((formatter.perform request).outcome before).2
    rwa [List.append_assoc] at rest

/-- Kept templates stay in their slots over all calls. -/
theorem run_extends (formatter : Formatter) (requests : List Request) (before : CallHistory) :
    formatter.entries <+: ((formatter.run requests).outcome before).1.2.entries := by
  -- One call adds at the end or not at all, so that many do.
  induction requests generalizing formatter before with
  | nil => exact List.prefix_rfl
  | cons request requests ih =>
    have first := formatter.parse_extends request.source
    rw [← perform_formatter formatter request before] at first
    exact first.trans (ih _ _)

/-- Every template that calls return still stands under its text behind all of them. -/
theorem run_slot {requests : List Request} {before : CallHistory} {step : Step (Template × Nat)}
    (member : step ∈ ((formatter.run requests).outcome before).1.1) {template : Template}
    {slot : Nat} (answered : step.reply = .parsed (.ok (template, slot))) :
    ((formatter.run requests).outcome before).1.2.entries[slot]? =
      some (step.request.source, template) := by
  induction requests generalizing formatter before with
  | nil => cases member
  | cons request requests ih =>
    have first := @perform_slot formatter request before template slot
    rw [run_cons] at member ⊢
    -- What counts is the first reply and the formatter that it leaves.
    generalize (formatter.perform request).outcome before = result at first member ⊢
    obtain ⟨⟨reply, middle⟩, calls⟩ := result
    rcases List.mem_cons.mp member with rfl | member
    · -- What the first call returns is kept from then on.
      obtain ⟨within, stands⟩ := List.getElem?_eq_some_iff.mp (first answered)
      have onward := List.prefix_iff_getElem?.mp (run_extends middle requests calls) slot within
      exact onward.trans (congrArg some stands)
    · exact ih member

/-- Every call has its step. -/
theorem run_requests (formatter : Formatter) (requests : List Request) (before : CallHistory) :
    ((formatter.run requests).outcome before).1.1.map Step.request = requests := by
  -- Steps come in the order of the calls.
  induction requests generalizing formatter before with
  | nil => rfl
  | cons request requests ih =>
    rw [run_cons]
    exact congrArg (request :: ·) (ih _ _)

/-- A formatter keeps as many templates as there are different texts among those it can read. -/
theorem Keeps.size_eq (keeps : formatter.Keeps sources) :
    formatter.size = (sources.dedup.filter fun source => (Template.parse source).isOk).length := by
  -- Both list each readable text once.
  have same : (formatter.entries.map Prod.fst).Perm
      (sources.dedup.filter fun source => (Template.parse source).isOk) := by
    refine (List.perm_ext_iff_of_nodup keeps.distinct (sources.nodup_dedup.filter _)).mpr ?_
    intro source
    rw [List.mem_filter, List.mem_dedup, List.mem_map]
    constructor
    · rintro ⟨⟨key, template⟩, member, rfl⟩
      obtain ⟨asked, read⟩ := (keeps.mem_iff key template).mp member
      exact ⟨asked, by rw [read]; rfl⟩
    · rintro ⟨asked, readable⟩
      cases read : Template.parse source with
      | error error =>
        rw [read] at readable
        cases readable
      | ok template => exact ⟨(source, template), (keeps.mem_iff _ _).mpr ⟨asked, read⟩, rfl⟩
  rw [size, ← same.length_eq, List.length_map]

/-- A formatter answers as if it kept nothing.

Over any calls, each result is the one of reading and rendering anew with the same calls of
deferred values made before, and leaves the same calls made. -/
theorem run_transparent (requests : List Request) (before : CallHistory) :
    ((fun (steps, _) => steps.map (Step.map Prod.fst)) <$> empty.run requests).outcome before =
      (answerAll requests).outcome before :=
  -- Nothing kept is a formatter as good as any other.
  keeps_empty.run_answer requests before

/-- A formatter keeps exactly the templates among the texts of its calls, each of them once.

A text that is no template changes nothing, and one that only fails to be rendered is kept. Two
calls return the same template, from the same slot, exactly when their texts are equal. -/
theorem run_keeps_templates (requests : List Request) (before : CallHistory) :
    match (empty.run requests).outcome before with
    | ((steps, formatter), after) =>
      steps.map Step.request = requests ∧
      (∀ source template, (∃ slot, formatter.find? source = some (template, slot)) ↔
        source ∈ requests.map Request.source ∧ Template.parse source = .ok template) ∧
      (∀ source template slot, formatter.find? source = some (template, slot) →
        template.source = source) ∧
      formatter.size =
        ((requests.map Request.source).dedup.filter
          fun source => (Template.parse source).isOk).length ∧
      (∀ request, match (formatter.perform request).outcome after with
        | ((reply, behind), _) =>
          (∀ error, Template.parse request.source = .error error → behind = formatter) ∧
          ∀ error, reply = .rendered (.error (.render error)) →
            ∃ template slot, Template.parse request.source = .ok template ∧
              behind.find? request.source = some (template, slot)) ∧
      ∀ first ∈ steps, ∀ second ∈ steps, ∀ template slot template' slot',
        first.reply = .parsed (.ok (template, slot)) →
        second.reply = .parsed (.ok (template', slot')) →
        (slot = slot' ↔ first.request.source = second.request.source) ∧
        (slot = slot' → template = template') := by
  -- What the calls leave is known by what a formatter keeps and by the slots of the replies.
  have keeps := keeps_empty.run requests before
  have answered := run_requests empty requests before
  have stands := @run_slot empty requests before
  rw [List.nil_append] at keeps
  generalize (empty.run requests).outcome before = result at keeps answered stands
  obtain ⟨⟨steps, formatter⟩, after⟩ := result
  refine ⟨answered, fun source template => ⟨?_, ?_⟩, fun source template slot found => ?_,
    keeps.size_eq, fun request => ?_, ?_⟩
  · intro found
    obtain ⟨slot, found⟩ := found
    exact keeps.find found
  · intro asked
    exact keeps.exists_find asked.1 asked.2
  -- An entry stands under the text that it was read from.
  · exact keeps.source_eq (List.mem_of_getElem? (find?_entry found))
  · have left := perform_formatter formatter request after
    have found := @Keeps.perform_find formatter _ keeps request
    have read := @Keeps.rendered_read formatter _ keeps request after
    rcases performed : (formatter.perform request).outcome after with ⟨⟨reply, behind⟩, last⟩
    rw [performed] at left read
    refine ⟨fun error refused => ?_, fun error failed => ?_⟩
    -- A text that is refused leaves no entry.
    · exact left.trans (parse_error_formatter refused)
    · obtain ⟨template, parsed⟩ := read failed
      obtain ⟨slot, kept⟩ := found parsed after
      rw [performed] at kept
      exact ⟨template, slot, parsed, kept⟩
  · intro first member second memberToo template slot template' slot' reply replyToo
    have kept := stands member reply
    have keptToo := stands memberToo replyToo
    -- One slot holds one template under one text.
    have entry (same : slot = slot') :
        (first.request.source, template) = (second.request.source, template') := by
      subst same
      exact Option.some.inj (kept.symm.trans keptToo)
    refine ⟨⟨fun same => congrArg Prod.fst (entry same), fun same => ?_⟩,
      fun same => congrArg Prod.snd (entry same)⟩
    -- One text is found in one slot.
    have found := (find?_eq_some_iff keeps.distinct).mpr kept
    have foundToo := (find?_eq_some_iff keeps.distinct).mpr keptToo
    rw [same, foundToo] at found
    cases found
    rfl

end TextTemplate.Formatter
