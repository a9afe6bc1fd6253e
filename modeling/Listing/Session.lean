import Listing.Link
import Listing.Match
import Listing.Source

/-!
# Sessions

A session holds one query and the settings, and takes steps that read, change, write and run
the query. A step that fails leaves the query as it was. Whether a step reads the settings
matters, because the first read fixes them until they are reloaded.
-/

namespace Listing

structure Session where
  query : Query
  settings : Settings

inductive SessionStep where
  | read (request : Request)
  | readString (queryString : Text) (fieldLimit : Option Nat := Form.standardLimit)
  | merge (patch : Patch)
  | force (mandatory : List FilterSpec)
  | start
  | bare
  | write (defaultPageSize : Option Value)
  /-- Write the query and follow it as a link. -/
  | reread
  | configure (table : Members) (reload : Bool)
  | condition
  | ordering
  | fields
  | accepts (attributes : Attributes) (records : List Value)
  | execute (source : Source)

/-- What a step answers. -/
inductive SessionAnswer where
  | outcome (o : Outcome)
  | query (q : Query)
  | text (t : Text)
  | reread (written : Text) (o : Outcome) (same : Bool)
  | nothing
  | condition (c : Condition)
  | names (ts : List Text)
  | verdicts (bs : List Bool)
  | page (p : Page) (calls : List Call)

/-- Whether reading a request under a capability comes to a setting: an integer with too many
digits can stop it before. -/
def Request.readsSettings (r : Request) (c : Capability) : Bool :=
  match r.readPage with
  | .error _ => false
  | .ok _ =>
    c.needsPreferences ||
      match r.readPageSize c {} with
      | .error _ => false
      | .ok _ => true

namespace Session

/-- Whether reading a request under a described capability comes to a setting. -/
def requestReads (spec : CapabilitySpec) (request : Request) : Bool :=
  match Capability.ofSpec spec with
  | .ok c => request.readsSettings c
  | .error _ => false

/-- Whether a step reads a setting. -/
def readsSettings (spec : CapabilitySpec) : SessionStep → Bool
  | .read request => requestReads spec request
  | .readString queryString fieldLimit =>
    match Request.ofQueryString fieldLimit queryString with
    | .ok request => requestReads spec request
    | .error _ => false
  | .start =>
    match Capability.ofSpec spec with
    | .ok c => c.needsPreferences
    | .error _ => false
  | .bare | .write none | .reread => true
  | _ => false

/-- The answer of a step under preferences, and the query after it. -/
def answer (spec : CapabilitySpec) (p : Preferences) (q : Query) :
    SessionStep → Except Failure (SessionAnswer × Query)
  | .read request => do
    let c ← Capability.ofSpec spec
    let o ← request.read c p
    return (.outcome o, o.query)
  | .readString queryString fieldLimit => do
    let request ← Request.ofQueryString fieldLimit queryString
    let c ← Capability.ofSpec spec
    let o ← request.read c p
    return (.outcome o, o.query)
  | .merge patch => (q.merge patch).map fun q => (.query q, q)
  | .force mandatory => (q.force mandatory).map fun q => (.query q, q)
  | .start => do
    let q ← Query.start (← Capability.ofSpec spec) p
    return (.query q, q)
  | .bare => (Query.bare p).map fun q => (.query q, q)
  | .write size => (q.queryString (size.getD p.defaultPageSize)).map fun t => (.text t, q)
  | .reread => do
    let written ← q.queryString p.defaultPageSize
    let o ← follow ('?' :: written) spec p
    return (.reread written o (o.query.same q), o.query)
  | .configure .. => .ok (.nothing, q)
  | .condition => (conditionOf q.filters).map fun c => (.condition c, q)
  | .ordering => .ok (.names (orderingOf q.sorts), q)
  | .fields => .ok (.names (fieldsOf q.filters), q)
  | .accepts attributes records =>
    (records.mapM (evaluate attributes q.filters)).map fun bs => (.verdicts bs, q)
  | .execute source =>
    let trace := source.execute q [] none
    trace.result.map fun page => (.page page trace.calls, q)

/-- A session at its first query: a described one, or the one that a request without
parameters asks for. -/
def begin (spec : CapabilitySpec) (settings : Settings) (first : Option QuerySpec) :
    Except Failure Session := do
  let p := settings.preferences
  let (query, reads) ← match first with
    | some described => do pure (← described.toQuery p, described.pageSize.isNone)
    | none => do
      let c ← Capability.ofSpec spec
      pure (← Query.start c p, c.needsPreferences)
  return { query, settings := if reads then settings.afterRead else settings }

/-- The settings after a step. -/
def settingsAfter (spec : CapabilitySpec) (s : Settings) (step : SessionStep) : Settings :=
  match step with
  | .configure table reload => if reload then (s.set table).reload else s.set table
  | step => if readsSettings spec step then s.afterRead else s

/-- One step: its answer and the state after it. -/
def step (spec : CapabilitySpec) (s : Session) (step : SessionStep) :
    Except Failure SessionAnswer × Session :=
  let settings := settingsAfter spec s.settings step
  match answer spec s.settings.preferences s.query step with
  | .ok (a, query) => (.ok a, { query, settings })
  | .error f => (.error f, { s with settings })

/-- The answers of a run of steps, in order. -/
def run (spec : CapabilitySpec) (s : Session) :
    List SessionStep → List (Except Failure SessionAnswer)
  | [] => []
  | next :: rest => (s.step spec next).1 :: run spec (s.step spec next).2 rest

end Session

end Listing
