import Listing.Reply
import Listing.Request
import Listing.Source

/-!
# Endpoints

An endpoint reads the request of a visit, rejects it if it has faults, and otherwise passes
the outcome to a view, with a result if it has a source or a handler. Hooks may change the
query before and the result after. A visit that fails is answered with an internal error, and
the view is not called.
-/

namespace Listing

structure Visit where
  path : Text
  queryString : Text := []
  /-- The greatest number of fields that the project reads from a query string. -/
  fieldLimit : Option Nat := Form.standardLimit

/-- A function given by the user of an endpoint: one that answers at once, or one that is
waited for. -/
inductive Hook (α : Type) where
  | immediate (f : α)
  | deferred (f : α)

/-- What a hook does; waiting changes nothing. -/
def Hook.run {α : Type} : Hook α → α
  | immediate f | deferred f => f

structure Endpoint where
  capability : Capability
  source : Option Source := none
  mandatory : List FilterSpec := []
  transform : Option Transform := none
  before : Option (Hook (Visit → Query → Except Failure Query)) := none
  after : Option (Hook (Value → Visit → Except Failure Value)) := none
  handler : Option (Hook (Visit → Query → Capability → Except Failure Value)) := none

/-- What an endpoint calls while it serves a visit, with what it hands over. -/
inductive Event where
  | before (q : Query)
  | handler (q : Query)
  | source (c : Call)
  | after (result : Value)

/-- How a visit ends: with a reply of the endpoint, or with a call of the view. -/
inductive Ending where
  | replied (reply : Reply)
  | viewed (outcome : Outcome) (result : Option Value)

/-- A visit that was served: its ending, the log, and what was called before the ending. -/
structure Service where
  ending : Ending
  log : List LogLine
  events : List Event := []

/-- The calls on the source. -/
def Service.calls (s : Service) : List Call :=
  s.events.filterMap fun
    | .source c => some c
    | _ => none

namespace Endpoint

/-- The query to run: the one read, or what the hook makes of it. -/
def queryFor (e : Endpoint) (v : Visit) (q : Query) : Traced Event Query :=
  match e.before with
  | some hook => ⟨[.before q], hook.run v q⟩
  | none => pure q

/-- The result for a query: the handler's, else the source's page, else nothing. -/
def resultFor (e : Endpoint) (v : Visit) (q : Query) : Traced Event Value :=
  match e.handler, e.source with
  | some hook, _ => ⟨[.handler q], hook.run v q e.capability⟩
  | none, some s => do
    return (← (s.execute q e.mandatory e.transform).relabel Event.source).record
  | none, none => pure .null

/-- The result for the view: what the hook makes of a result that is not nothing. -/
def resultAfter (e : Endpoint) (v : Visit) (result : Value) : Traced Event Value :=
  match e.after with
  | some hook => if result.isNull then pure result else ⟨[.after result], hook.run result v⟩
  | none => pure result

/-- What an accepted request leads to: the query that is run, and the result for the view. -/
def answer (e : Endpoint) (v : Visit) (q : Query) : Traced Event (Query × Value) := do
  let q ← e.queryFor v q
  let result ← e.resultFor v q
  let result ← e.resultAfter v result
  return (q, result)

def givesResult (e : Endpoint) : Bool :=
  e.handler.isSome || e.source.isSome

def rejection (v : Visit) (o : Outcome) : LogLine :=
  ⟨.info, "Rejected sieve query for " ++ v.path ++ ": ".toList
    ++ joinWith "; " (o.faults.map Fault.message)⟩

def failureLine (v : Visit) : LogLine :=
  ⟨.error, "Sieve query error for " ++ v.path⟩

def serve (e : Endpoint) (v : Visit) (p : Preferences) : Except Failure Service := do
  let outcome ← (← Request.ofQueryString v.fieldLimit v.queryString).read e.capability p
  let log := outcome.log p
  if !outcome.valid then
    return { ending := .replied (.ofOutcome outcome), log := log ++ [rejection v outcome] }
  let answer := e.answer v outcome.query
  return match answer.result with
    | .error f =>
      { ending := .replied (.ofFailure f), log := log ++ [failureLine v], events := answer.calls }
    | .ok (query, result) =>
      { ending := .viewed { outcome with query } (if e.givesResult then some result else none)
        log, events := answer.calls }

end Endpoint

end Listing
