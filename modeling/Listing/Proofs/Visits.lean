import Listing.Proofs.Forced
import Listing.Proofs.QueryString
import Listing.Proofs.Readable
import Listing.Proofs.Replies

/-!
# Visits

What becomes of a visit, and in which order an endpoint calls what it was given.

* **preparing, producing, finishing**: the hook before the query, the handler or the source, and
  the hook after the result, as relations with one case for each way to succeed
  (`Endpoint.Prepares`, `Endpoint.Produces`, `Endpoint.Finishes`);
* **failing**: the ways in which one of them fails after the others succeeded (`Endpoint.Fails`);
* **the answer**: an accepted request leads to a result, or it fails, exactly as these relations say
  (`answer_eq_ok_iff`, `answer_eq_error_iff`);
* **the law**: a visit whose request can be read is rejected, or broken off, or shown to the view
  (`serve_fails_closed_iff`).
-/

namespace Listing

/-! ## Calls in order -/

/-- The calls for the page of a query: the condition is that of the mandatory clauses, followed by
the clauses of the query on other fields. -/
def Source.AskedFor (s : Source) (mandatory : List FilterSpec) (q : Query) (calls : List Call) :
    Prop :=
  ∃ clauses condition start stop, mandatory.mapM FilterSpec.toClause = .ok clauses ∧
    conditionOf (clauses ++ othersOf clauses q.filters) = .ok condition ∧
    q.offset = .ok start ∧ Failure.ofArithmetic (start.add? q.pageSize) = .ok stop ∧
    calls = s.callsFor condition q.sorts start stop

namespace Endpoint
variable (e : Endpoint) (v : Visit)

/-- The query to run: the one that was read, or what the hook makes of it. -/
inductive Prepares (q : Query) : List Event → Query → Prop where
  | unhooked (absent : e.before = none) : Prepares q [] q
  | hooked {hook : Hook (Visit → Query → Except Failure Query)} {r : Query}
      (given : e.before = some hook) (returns : hook.run v q = .ok r) : Prepares q [.before q] r

/-- The result for a query: the handler's, which keeps the source untouched; else the page that the
source gives with the mandatory clauses forced; else nothing. -/
inductive Produces (q : Query) : List Event → Value → Prop where
  | handled {hook : Hook (Visit → Query → Capability → Except Failure Value)} {result : Value}
      (given : e.handler = some hook) (returns : hook.run v q e.capability = .ok result) :
      Produces q [.handler q] result
  | served {s : Source} {calls : List Call} {page : Page} (absent : e.handler = none)
      (given : e.source = some s)
      (executed : s.execute q e.mandatory e.transform = ⟨calls, .ok page⟩)
      (asked : s.AskedFor e.mandatory q calls) :
      Produces q (calls.map .source) page.record
  | neither (unhandled : e.handler = none) (unsourced : e.source = none) : Produces q [] .null

/-- The result for the view: what the hook returns for a result that is not nothing, and otherwise
the result as it is. -/
inductive Finishes (result : Value) : List Event → Value → Prop where
  | unhooked (absent : e.after = none) : Finishes result [] result
  | nothing (null : result.isNull = true) : Finishes result [] result
  | hooked {hook : Hook (Value → Visit → Except Failure Value)} {final : Value}
      (given : e.after = some hook) (present : result.isNull = false)
      (returns : hook.run result v = .ok final) : Finishes result [.after result] final

/-- What an accepted query leads to: the query that was run and the result for the view. -/
inductive Leads (q : Query) : List Event → Query → Value → Prop where
  | intro {r : Query} {result final : Value} {first second third : List Event}
      (prepares : e.Prepares v q first r) (produces : e.Produces v r second result)
      (finishes : e.Finishes v result third final) :
      Leads q (first ++ (second ++ third)) r final

/-- How an accepted query fails: a hook, the handler or the execution fails, after what comes before
it succeeded. -/
inductive Fails (q : Query) : List Event → Failure → Prop where
  | before {hook : Hook (Visit → Query → Except Failure Query)} {failure : Failure}
      (given : e.before = some hook) (raises : hook.run v q = .error failure) :
      Fails q [.before q] failure
  | handler {r : Query} {first : List Event}
      {hook : Hook (Visit → Query → Capability → Except Failure Value)} {failure : Failure}
      (prepares : e.Prepares v q first r) (given : e.handler = some hook)
      (raises : hook.run v r e.capability = .error failure) :
      Fails q (first ++ [.handler r]) failure
  | source {r : Query} {first : List Event} {s : Source} {calls : List Call} {failure : Failure}
      (prepares : e.Prepares v q first r) (absent : e.handler = none) (given : e.source = some s)
      (raises : s.execute r e.mandatory e.transform = ⟨calls, .error failure⟩) :
      Fails q (first ++ calls.map .source) failure
  | after {r : Query} {result : Value} {first second : List Event}
      {hook : Hook (Value → Visit → Except Failure Value)} {failure : Failure}
      (prepares : e.Prepares v q first r) (produces : e.Produces v r second result)
      (given : e.after = some hook) (present : result.isNull = false)
      (raises : hook.run result v = .error failure) :
      Fails q (first ++ (second ++ [.after result])) failure

end Endpoint

/-! ## The answer -/

/-- A page is only given after the calls for it. -/
theorem Source.askedFor_of_execute {s : Source} {q : Query} {mandatory : List FilterSpec}
    {transform : Option Transform} {calls : List Call} {page : Page}
    (executed : s.execute q mandatory transform = ⟨calls, .ok page⟩) :
    s.AskedFor mandatory q calls := by
  obtain ⟨forced, forcing, fetched⟩ := execute_eq_ok_iff.1 executed
  obtain ⟨condition, totalPages, start, stop, rows, shown, made, -, first, last, -, -, asked, -⟩ :=
    fetch_eq_ok_iff.1 fetched
  obtain ⟨clauses, described, rfl⟩ := force_eq_ok_iff.1 forcing
  exact ⟨clauses, condition, start, stop, described, made, first, last, asked⟩

namespace Endpoint
variable {e : Endpoint} {v : Visit} {q r : Query} {result final : Value} {events : List Event}
  {failure : Failure}

theorem queryFor_eq_ok_iff : e.queryFor v q = ⟨events, .ok r⟩ ↔ e.Prepares v q events r := by
  constructor
  · intro h
    unfold queryFor at h
    split at h
    · next hook given =>
      injection h with same returns
      rw [← same]
      exact .hooked given returns
    · next absent =>
      obtain ⟨rfl, rfl⟩ := Traced.pure_eq_ok_iff.1 h
      exact .unhooked absent
  · intro h
    unfold queryFor
    cases h with
    | unhooked absent => rw [absent]; rfl
    | hooked given returns => rw [given]; exact congrArg _ returns

theorem queryFor_eq_error_iff : e.queryFor v q = ⟨events, .error failure⟩ ↔
    ∃ hook, e.before = some hook ∧ hook.run v q = .error failure ∧ events = [.before q] := by
  unfold queryFor
  cases given : e.before with
  | none => simp [Traced.pure_ne_error]
  | some hook => simp [and_comm, eq_comm]

theorem resultFor_eq_ok_iff :
    e.resultFor v q = ⟨events, .ok result⟩ ↔ e.Produces v q events result := by
  constructor
  · intro h
    unfold resultFor at h
    split at h
    · next given =>
      injection h with same returns
      rw [← same]
      exact .handled given returns
    · next s absent given =>
      obtain ⟨page, first, rest, relabelled, rest_eq, rfl⟩ := Traced.bind_eq_ok_iff.1 h
      obtain ⟨calls, executed, rfl⟩ := Traced.relabel_eq_iff.1 relabelled
      obtain ⟨rfl, rfl⟩ := Traced.pure_eq_ok_iff.1 rest_eq
      rw [List.append_nil]
      exact .served absent given executed (Source.askedFor_of_execute executed)
    · next unhandled unsourced =>
      obtain ⟨rfl, rfl⟩ := Traced.pure_eq_ok_iff.1 h
      exact .neither unhandled unsourced
  · intro h
    unfold resultFor
    cases h with
    | handled given returns =>
      rw [given]
      exact congrArg _ returns
    | served absent given executed _ =>
      rw [absent, given]
      apply Traced.bind_eq_ok_iff.2
      exact ⟨_, _, [], Traced.relabel_eq_iff.2 ⟨_, executed, rfl⟩, rfl, List.append_nil _⟩
    | neither unhandled unsourced =>
      rw [unhandled, unsourced]
      rfl

theorem resultFor_eq_error_iff : e.resultFor v q = ⟨events, .error failure⟩ ↔
    (∃ hook, e.handler = some hook ∧ hook.run v q e.capability = .error failure ∧
      events = [.handler q]) ∨
    (e.handler = none ∧ ∃ s calls, e.source = some s ∧
      s.execute q e.mandatory e.transform = ⟨calls, .error failure⟩ ∧
      events = calls.map .source) := by
  unfold resultFor
  cases handled : e.handler with
  | some hook => simp [and_comm, eq_comm]
  | none =>
    cases sourced : e.source with
    | none => simp [Traced.pure_ne_error]
    | some s =>
      simp only [Traced.bind_eq_error_iff, Traced.relabel_eq_iff, Traced.pure_ne_error]
      simp [eq_comm]

theorem resultAfter_eq_ok_iff :
    e.resultAfter v result = ⟨events, .ok final⟩ ↔ e.Finishes v result events final := by
  constructor
  · intro h
    unfold resultAfter at h
    split at h
    · next hook given =>
      split at h
      · next null =>
        obtain ⟨rfl, rfl⟩ := Traced.pure_eq_ok_iff.1 h
        exact .nothing null
      · next present =>
        injection h with same returns
        rw [← same]
        exact .hooked given (Bool.eq_false_iff.2 present) returns
    · next absent =>
      obtain ⟨rfl, rfl⟩ := Traced.pure_eq_ok_iff.1 h
      exact .unhooked absent
  · intro h
    unfold resultAfter
    cases h with
    | unhooked absent => rw [absent]; rfl
    | nothing null =>
      split
      · rw [if_pos null]; rfl
      · rfl
    | hooked given present returns =>
      rw [given]
      simp only [present, Bool.false_eq_true, if_false]
      exact congrArg _ returns

theorem resultAfter_eq_error_iff : e.resultAfter v result = ⟨events, .error failure⟩ ↔
    ∃ hook, e.after = some hook ∧ result.isNull = false ∧ hook.run result v = .error failure ∧
      events = [.after result] := by
  unfold resultAfter
  cases given : e.after with
  | none => simp [Traced.pure_ne_error]
  | some hook =>
    cases null : result.isNull with
    | true => simp [Traced.pure_ne_error]
    | false => simp [and_comm, eq_comm]

/-- An accepted query leads to a result as the relations say. -/
theorem answer_eq_ok_iff :
    e.answer v q = ⟨events, .ok (r, final)⟩ ↔ e.Leads v q events r final := by
  unfold answer
  simp only [Traced.bind_eq_ok_iff, queryFor_eq_ok_iff, resultFor_eq_ok_iff, resultAfter_eq_ok_iff,
    Traced.pure_eq_ok_iff]
  constructor
  · rintro ⟨r', first, _, prepares, ⟨result, second, _, produces, ⟨final', third, _, finishes,
      ⟨same, rfl⟩, rfl⟩, rfl⟩, rfl⟩
    cases same
    rw [List.append_nil]
    exact .intro prepares produces finishes
  · rintro ⟨prepares, produces, finishes⟩
    exact ⟨_, _, _, prepares, ⟨_, _, _, produces, ⟨_, _, [], finishes, ⟨rfl, rfl⟩,
      List.append_nil _⟩, rfl⟩, rfl⟩

/-- It fails as they say. -/
theorem answer_eq_error_iff :
    e.answer v q = ⟨events, .error failure⟩ ↔ e.Fails v q events failure := by
  unfold answer
  simp only [Traced.bind_eq_error_iff, queryFor_eq_ok_iff, resultFor_eq_ok_iff,
    resultAfter_eq_ok_iff, Traced.pure_ne_error, queryFor_eq_error_iff, resultFor_eq_error_iff,
    resultAfter_eq_error_iff, false_and, and_false, exists_false, or_false]
  constructor
  · rintro (⟨hook, given, raises, rfl⟩ | ⟨r, first, _, prepares,
      ((⟨hook, given, raises, rfl⟩ | ⟨absent, s, calls, given, raises, rfl⟩) |
        ⟨result, second, _, produces, ⟨hook, given, present, raises, rfl⟩, rfl⟩), rfl⟩)
    · exact .before given raises
    · exact .handler prepares given raises
    · exact .source prepares absent given raises
    · exact .after prepares produces given present raises
  · intro h
    cases h with
    | before given raises => exact .inl ⟨_, given, raises, rfl⟩
    | handler prepares given raises =>
      exact .inr ⟨_, _, _, prepares, .inl (.inl ⟨_, given, raises, rfl⟩), rfl⟩
    | source prepares absent given raises =>
      exact .inr ⟨_, _, _, prepares, .inl (.inr ⟨absent, _, _, given, raises, rfl⟩), rfl⟩
    | after prepares produces given present raises =>
      exact .inr ⟨_, _, _, prepares,
        .inr ⟨_, _, _, produces, ⟨_, given, present, raises, rfl⟩, rfl⟩, rfl⟩

end Endpoint

/-! ## Calls on the source -/

/-- The call on the source that an event is. -/
def Event.call? : Event → Option Call
  | .source c => some c
  | _ => none

theorem Service.calls_eq (s : Service) : s.calls = s.events.filterMap Event.call? :=
  rfl

namespace Endpoint
variable {e : Endpoint} {v : Visit} {q r : Query} {result final : Value} {events : List Event}
  {failure : Failure}

theorem Prepares.calls (h : e.Prepares v q events r) : events.filterMap Event.call? = [] := by
  cases h with
  | unhooked => rfl
  | hooked => rfl

theorem Finishes.calls (h : e.Finishes v result events final) :
    events.filterMap Event.call? = [] := by
  cases h with
  | unhooked => rfl
  | nothing => rfl
  | hooked => rfl

/-- A handler keeps the source untouched. -/
theorem Produces.calls_of_handler (h : e.Produces v q events result) (handled : e.handler ≠ none) :
    events.filterMap Event.call? = [] := by
  cases h with
  | handled => rfl
  | served absent => exact absurd absent handled
  | neither absent => exact absurd absent handled

/-- Without a handler a source is asked for the page. -/
theorem Produces.askedFor (h : e.Produces v q events result) (absent : e.handler = none)
    {s : Source} (given : e.source = some s) :
    s.AskedFor e.mandatory q (events.filterMap Event.call?) := by
  cases h with
  | handled given' => cases given'.symm.trans absent
  | neither _ unsourced => cases unsourced.symm.trans given
  | @served s' calls page _ given' _ asked =>
    obtain rfl := Option.some.inj (given'.symm.trans given)
    have same : (calls.map Event.source).filterMap Event.call? = calls := by
      rw [List.filterMap_map]
      exact List.filterMap_some
    rw [same]
    exact asked

theorem Leads.calls_of_handler (h : e.Leads v q events r final) (handled : e.handler ≠ none) :
    events.filterMap Event.call? = [] := by
  obtain ⟨prepares, produces, finishes⟩ := h
  rw [List.filterMap_append, List.filterMap_append, prepares.calls,
    produces.calls_of_handler handled, finishes.calls]
  rfl

theorem Leads.askedFor (h : e.Leads v q events r final) (absent : e.handler = none) {s : Source}
    (given : e.source = some s) : s.AskedFor e.mandatory r (events.filterMap Event.call?) := by
  obtain ⟨prepares, produces, finishes⟩ := h
  rw [List.filterMap_append, List.filterMap_append, prepares.calls, finishes.calls,
    List.nil_append, List.append_nil]
  exact produces.askedFor absent given

theorem Fails.calls_of_handler (h : e.Fails v q events failure) (handled : e.handler ≠ none) :
    events.filterMap Event.call? = [] := by
  cases h with
  | before => rfl
  | handler prepares =>
    rw [List.filterMap_append, prepares.calls]
    rfl
  | source _ absent => exact absurd absent handled
  | after prepares produces =>
    rw [List.filterMap_append, List.filterMap_append, prepares.calls,
      produces.calls_of_handler handled]
    rfl

end Endpoint

/-! ## The law -/

/-- One of three, and not two of them. -/
def OneOf (a b c : Prop) : Prop :=
  (a ∧ ¬ b ∧ ¬ c) ∨ (¬ a ∧ b ∧ ¬ c) ∨ (¬ a ∧ ¬ b ∧ c)

/-- A visit is rejected with all its faults, and nothing was called. -/
structure Service.Rejects (s : Service) (p : Preferences) (o : Outcome) : Prop where
  faulty : o.faults ≠ []
  silent : s.events = []
  ending : s.ending = .replied (.ofOutcome o)
  sent : ∀ debug, ∃ body,
    (Reply.ofOutcome o).sent p debug = .ok (if p.alwaysOk then 200 else 400, body)

/-- An accepted visit is broken off by a failure, which is reported; the view is not called. -/
structure Service.BreaksOff (s : Service) (e : Endpoint) (v : Visit) (p : Preferences)
    (o : Outcome) : Prop where
  accepted : o.faults = []
  fails : ∃ failure, e.Fails v o.query s.events failure ∧ s.ending = .replied (.ofFailure failure) ∧
    ∀ debug, ∃ body,
      (Reply.ofFailure failure).sent p debug = .ok (if p.alwaysOk then 200 else 500, body)

/-- An accepted visit is shown to the view, with the query that was run and the result. -/
structure Service.Shows (s : Service) (e : Endpoint) (v : Visit) (o : Outcome) : Prop where
  accepted : o.faults = []
  leads : ∃ q final, e.Leads v o.query s.events q final ∧
    s.ending = .viewed { o with query := q } (if e.givesResult then some final else none)

section
variable {e : Endpoint} {v : Visit} {p : Preferences} {o : Outcome}

theorem reads_of_serve {s : Service} (h : e.serve v p = .ok s) :
    ∃ o, v.Reads e.capability p o := by
  obtain ⟨r, asked, h⟩ := bind_eq_ok_iff.1 h
  obtain ⟨o, read, -⟩ := bind_eq_ok_iff.1 h
  exact ⟨o, r, asked, read⟩

/-- What serving does with a request that was read. -/
theorem serve_eq (reads : v.Reads e.capability p o) :
    e.serve v p = .ok (if o.faults.isEmpty then
      match (e.answer v o.query).result with
      | .error failure =>
        { ending := .replied (.ofFailure failure), log := o.log p ++ [Endpoint.failureLine v]
          events := (e.answer v o.query).calls }
      | .ok (query, result) =>
        { ending := .viewed { o with query } (if e.givesResult then some result else none)
          log := o.log p, events := (e.answer v o.query).calls }
      else { ending := .replied (.ofOutcome o), log := o.log p ++ [Endpoint.rejection v o] }) := by
  obtain ⟨r, asked, read⟩ := reads
  rw [Endpoint.serve, asked]
  show (r.read e.capability p >>= _) = _
  rw [read]
  cases valid : o.faults.isEmpty with
  | true =>
    show (if !o.faults.isEmpty then _ else _) = _
    rw [valid]
    cases (e.answer v o.query).result <;> rfl
  | false =>
    show (if !o.faults.isEmpty then _ else _) = _
    rw [valid]
    rfl

theorem serve_of_faults (reads : v.Reads e.capability p o) (faulty : o.faults ≠ []) :
    ∃ s, e.serve v p = .ok s ∧ s.Rejects p o := by
  have invalid : o.faults.isEmpty = false := List.isEmpty_eq_false_iff.2 faulty
  have served := serve_eq reads
  rw [invalid] at served
  exact ⟨_, served, faulty, rfl, rfl, exists_sent_ofOutcome o p⟩

theorem serve_of_no_faults (reads : v.Reads e.capability p o) (accepted : o.faults = []) :
    ∃ s, e.serve v p = .ok s ∧ (s.BreaksOff e v p o ∨ s.Shows e v o) := by
  have valid : o.faults.isEmpty = true := List.isEmpty_iff.2 accepted
  have served := serve_eq reads
  rw [valid] at served
  cases answer : e.answer v o.query with
  | mk events result =>
    rw [answer] at served
    cases result with
    | error failure =>
      refine ⟨_, served, .inl ⟨accepted, failure, ?_, rfl, exists_sent_ofFailure failure p⟩⟩
      exact Endpoint.answer_eq_error_iff.1 answer
    | ok given =>
      obtain ⟨q, final⟩ := given
      exact ⟨_, served, .inr ⟨accepted, q, final, Endpoint.answer_eq_ok_iff.1 answer, rfl⟩⟩

/-- What leads to a result does not fail. -/
theorem Endpoint.Fails.not_leads {q r : Query} {final : Value} {failing leading : List Event}
    {failure : Failure} (fails : e.Fails v q failing failure) : ¬ e.Leads v q leading r final := by
  intro leads
  cases (answer_eq_error_iff.2 fails).symm.trans (answer_eq_ok_iff.2 leads)

/-- A visit that was read ends in one of the three ways. -/
theorem exists_serve (reads : v.Reads e.capability p o) :
    ∃ s, e.serve v p = .ok s ∧ OneOf (s.Rejects p o) (s.BreaksOff e v p o) (s.Shows e v o) := by
  by_cases faults : o.faults = []
  · obtain ⟨s, served, ends⟩ := serve_of_no_faults reads faults
    have accepted : ¬ s.Rejects p o := fun h => h.faulty faults
    refine ⟨s, served, .inr ?_⟩
    -- The ending tells a reply from a call of the view.
    have apart : s.BreaksOff e v p o → ¬ s.Shows e v o := by
      rintro ⟨-, failure, -, replied, -⟩ ⟨-, q, final, -, viewed⟩
      cases replied.symm.trans viewed
    rcases ends with broken | shown
    · exact .inl ⟨accepted, broken, apart broken⟩
    · exact .inr ⟨accepted, fun broken => apart broken shown, shown⟩
  · obtain ⟨s, served, rejected⟩ := serve_of_faults reads faults
    exact ⟨s, served, .inl ⟨rejected, fun h => faults h.accepted, fun h => faults h.accepted⟩⟩

end

/-- A visit fails closed exactly if it can be read: it is rejected before anything is called, or
broken off by a failure without the view, or shown to the view with the query that was run. A
handler keeps the source untouched, and without one a source is asked for the page with the
mandatory clauses forced on the query of the hook. -/
theorem serve_fails_closed_iff (e : Endpoint) (v : Visit) {p : Preferences}
    (numeric : e.capability.Numeric p) :
    (∃ o s, v.Reads e.capability p o ∧ e.serve v p = .ok s ∧
      OneOf (s.Rejects p o) (s.BreaksOff e v p o) (s.Shows e v o) ∧
      (o.faults ≠ [] → s.Rejects p o) ∧
      (o.faults = [] → ∀ events failure, e.Fails v o.query events failure →
        s.BreaksOff e v p o) ∧
      (e.handler ≠ none → s.calls = []) ∧
      ∀ source q result, e.handler = none → e.source = some source →
        s.ending = .viewed { o with query := q } result → source.AskedFor e.mandatory q s.calls) ↔
      v.Readable := by
  constructor
  · rintro ⟨o, s, reads, -⟩
    exact (exists_reads_iff numeric).1 ⟨o, reads⟩
  · intro readable
    obtain ⟨o, reads⟩ := (exists_reads_iff numeric).2 readable
    obtain ⟨s, served, once⟩ := exists_serve reads
    refine ⟨o, s, reads, served, once, fun faulty => ?_, fun accepted events failure fails => ?_,
      fun handled => ?_, fun source q result absent given viewed => ?_⟩
    · rcases once with ⟨rejected, -⟩ | ⟨-, broken, -⟩ | ⟨-, -, shown⟩
      · exact rejected
      · exact absurd broken.accepted faulty
      · exact absurd shown.accepted faulty
    · rcases once with ⟨rejected, -⟩ | ⟨-, broken, -⟩ | ⟨-, -, shown⟩
      · exact absurd accepted rejected.faulty
      · exact broken
      · obtain ⟨q, final, leads, -⟩ := shown.leads
        exact absurd leads fails.not_leads
    · rw [s.calls_eq]
      rcases once with ⟨rejected, -⟩ | ⟨-, broken, -⟩ | ⟨-, -, shown⟩
      · rw [rejected.silent]
        rfl
      · obtain ⟨failure, fails, -⟩ := broken.fails
        exact fails.calls_of_handler handled
      · obtain ⟨q, final, leads, -⟩ := shown.leads
        exact leads.calls_of_handler handled
    · rw [s.calls_eq]
      rcases once with ⟨rejected, -⟩ | ⟨-, broken, -⟩ | ⟨-, -, shown⟩
      · cases rejected.ending.symm.trans viewed
      · obtain ⟨failure, -, replied, -⟩ := broken.fails
        cases replied.symm.trans viewed
      · obtain ⟨q', final, leads, viewed'⟩ := shown.leads
        injection viewed'.symm.trans viewed with same
        injection same with query
        rw [← query]
        exact leads.askedFor absent given

/-- An endpoint for published articles, whose hook turns to the first page. -/
def articles : Endpoint where
  capability := {}
  source := some { rows := fun _ => [.int 1, .int 2] }
  mandatory := [.parts (some "state") (some (.text "==")) (.text "published") {} {}]
  before := some (.deferred fun _ q => .ok { q with page := 1 })
  after := some (.immediate fun result _ => .ok (.list [result]))

/-- A visit of the articles. -/
theorem serve_fails_closed_articles :
    let v : Visit := { path := "/articles", queryString := "page=2&filters=price>5".toList }
    ∃ o s, v.Reads articles.capability {} o ∧ articles.serve v {} = .ok s ∧
      OneOf (s.Rejects {} o) (s.BreaksOff articles v {} o) (s.Shows articles v o) := by
  intro v
  have numeric : articles.capability.Numeric {} := Capability.numeric_of_unset rfl rfl
  have page : (Request.ofPairs (Form.read v.queryString)).page = some "2".toList := rfl
  have pageSize : (Request.ofPairs (Form.read v.queryString)).pageSize = none := rfl
  have readable : v.Readable := by
    refine ⟨fun limit given => ?_, Request.not_overlong_given page
      (show _ = some (false, "2".toList) from rfl) (by decide), fun t given => ?_⟩
    · rw [← Option.some.inj given]
      decide +kernel
    · cases pageSize.symm.trans given
  obtain ⟨o, s, reads, served, once, -, -, -, -⟩ :=
    (serve_fails_closed_iff articles v numeric).2 readable
  exact ⟨o, s, reads, served, once⟩

/-- A page size of more digits than are read stops the endpoint before its care for failures. -/
theorem serve_overlong_fails :
    let v : Visit := { path := "/articles"
                       queryString := Form.write [("pageSize", natText (10 ^ digitLimit))] }
    articles.capability.Numeric {} ∧ ¬ ∃ s, articles.serve v {} = .ok s := by
  intro v
  have numeric : articles.capability.Numeric {} := Capability.numeric_of_unset rfl rfl
  refine ⟨numeric, ?_⟩
  rintro ⟨s, served⟩
  have readable := (exists_reads_iff numeric).1 (reads_of_serve served)
  have asked : Form.read v.queryString = [("pageSize".toList, natText (10 ^ digitLimit))] :=
    Form.read_write _
  apply readable.pageSize (natText (10 ^ digitLimit))
  · rw [asked]
    rfl
  · exact Request.overlong_natText

end Listing
