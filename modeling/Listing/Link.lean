import Listing.Address
import Listing.Form
import Listing.Render
import Listing.Request

/-!
# Links

Queries in the addresses of an endpoint. Following a link reads the request in its query
string; revising a link changes the query it asks for and keeps every other parameter, with
its place and value. A link is revised in the words of the request: inside names and the
default sort do not enter it.
-/

namespace Listing

def Query.queryString (q : Query) (defaultPageSize : Value) : Except Failure Text :=
  (q.written defaultPageSize).map Form.write

/-- The request in the query string of an address. -/
def Address.request (a : Address) : Request :=
  .ofPairs (Form.read a.query)

/-- What following a link gives under a described capability. -/
def follow (link : Text) (spec : CapabilitySpec) (p : Preferences) : Except Failure Outcome := do
  let a ← Address.read link
  let c ← Capability.ofSpec spec
  a.request.read c p

/-- The parameters of a query string that belong to no request. -/
def foreignPairs (queryString : Text) : List (Text × Text) :=
  (Form.read queryString).filter fun pair => !parameterNames.contains pair.1

/-- The address that asks by other parameters and keeps its foreign ones. -/
def Address.asking (a : Address) (params : List (Text × Text)) : Address :=
  { a with query := Form.write (foreignPairs a.query ++ params) }

/-- An address with a patch put on the query it asks for. -/
def Address.revise (a : Address) (patch : Patch) (c : Capability) (p : Preferences) :
    Except Failure Address := do
  let current ← a.request.read c.outside p
  let changed ← current.query.merge patch
  let params ← changed.written (c.pageSize p)
  return a.asking params

/-- A link with a patch put on the query it asks for. The empty patch leaves it as it is. -/
def reviseLink (link : Text) (patch : Patch) (spec : CapabilitySpec) (p : Preferences) :
    Except Failure Text :=
  if patch.isEmpty then .ok link
  else do
    let c ← Capability.ofSpec spec
    let a ← Address.read link
    return (← a.revise patch c p).text

/-- A run of revisions: each answer is the link after it and what following it gives. A
revision that fails leaves the link. -/
def reviseRun (spec : CapabilitySpec) (p : Preferences) :
    Text → List Patch → List (Except Failure (Text × Outcome))
  | _, [] => []
  | link, patch :: rest =>
    match reviseLink link patch spec p with
    | .error f => .error f :: reviseRun spec p link rest
    | .ok changed =>
      (follow changed spec p).map (fun o => (changed, o)) :: reviseRun spec p changed rest

end Listing
