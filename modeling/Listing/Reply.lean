import Listing.Outcome
import Listing.Value.Text

/-!
# Replies

What an endpoint sends: a code, an error text or none, and members of the body. The status of
a reply follows from its code. Where every answer is sent as a success, the body carries the
real status, under names that the members of a reply may take.
-/

namespace Listing

/-- A reply. The error counts only if it counts as true. -/
structure Reply where
  code : Text
  error : Value := .null
  data : Members := []

namespace Reply

def success (r : Reply) : Bool :=
  r.code = "OK".toList || r.code = "OK_QUERY".toList

/-- The status of a reply. An unknown code is an internal error. -/
def status (r : Reply) : Int :=
  if r.success then 200 else if r.code = "BAD_REQUEST".toList then 400 else 500

/-- The error text for a code, where a reply has none of its own. -/
def standardError (code : Text) : Text :=
  if code = "BAD_REQUEST".toList then "Invalid query parameters"
  else if code = "INTERNAL_ERROR".toList then "Internal server error"
  else "An error occurred"

/-- The first of some names that a member has. -/
def taken? (names : List Text) (members : Members) : Option Text :=
  names.find? fun name => (members.get? name).isSome

/-- Members of a body may have none of the names that a maker of replies gives to its own
parts, and none of those that it passes on. -/
def checkNames (maker : Text) (own passed : List Text) (members : Members) :
    Except Failure Unit :=
  match taken? own members, taken? passed members, taken? ["self"] members with
  | some name, _, _ => .error (.nameTaken maker name)
  | none, some name, _ => .error (.keywordTaken "django_sieve.response.SieveResponse()" name)
  | none, none, some name => .error (.nameTaken "SieveResponse.__init__()" name)
  | none, none, none => .ok ()

/-- A reply of a code with members of the body; a member `error_message` is the error. -/
def ofMembers (code : Text) (members : Members) : Reply where
  code := code
  error := (members.get? "error_message").getD .null
  data := members.filter fun m => m.1 ≠ "error_message".toList

/-- A success with members of the body. -/
def ofData (members : Members) : Except Failure Reply := do
  checkNames "SieveResponse.ok()" ["cls"] ["code"] members
  return ofMembers "OK" members

/-- A success with a page of rows. Metadata and warnings that are empty are left out. -/
def ofRows (rows pagination warnings : Value) (extra : Members) : Except Failure Reply := do
  checkNames "SieveResponse.ok_query()" ["cls", "data", "pagination", "warnings"] ["code"] extra
  return ofMembers "OK_QUERY"
    (Members.overlay
      ([("data".toList, rows)]
        ++ (if pagination.truthy then [("pagination".toList, pagination)] else [])
        ++ (if warnings.truthy then [("warnings".toList, .list warnings.elements)] else []))
      extra)

/-- A reply of any code with an error and members of the body. -/
def ofError (code : Text) (error : Value) (members : Members) : Except Failure Reply := do
  checkNames "SieveResponse.error()" ["cls", "code", "message"] ["error_message"] members
  return { code, error, data := members }

/-- The rejection of a request: the first fault's message, then all faults and warnings. -/
def ofOutcome (o : Outcome) : Reply where
  code := "BAD_REQUEST"
  error := .text (match o.faults with
    | f :: _ => f.message
    | [] => standardError "BAD_REQUEST")
  data := [("errors", .list (o.faults.map Fault.record)),
    ("warnings", .list (o.warnings.map fun w => .text w.message))]

/-- The report of a failure. One without a text shows no error but the standard one, which only a
body with the status has. -/
def ofFailure (f : Failure) : Reply where
  code := "INTERNAL_ERROR"
  error := .text f.report

/-- The members of the body, without the status. -/
def members (r : Reply) : Members :=
  Members.overlay (if r.error.truthy then [("error", r.error)] else []) r.data

/-- The error that a body with the status shows. -/
def shownError (r : Reply) : Members :=
  if r.error.truthy then [("error", r.error)]
  else if r.success then [] else [("error", .text (standardError r.code))]

/-- The members of the body with the status; members of the reply win over them. -/
def membersWithStatus (r : Reply) : Members :=
  Members.overlay
    ([("status_code".toList, .int r.status), ("success".toList, .flag r.success)] ++ r.shownError)
    r.data

/-- The members of the body for a client that looks at the body alone. When debugging, an
internal error also shows what was raised. -/
def membersInBody (r : Reply) (debug : Bool) : Members :=
  if debug && r.code = "INTERNAL_ERROR".toList && r.error.truthy then
    Members.put r.membersWithStatus "exception" r.error
  else r.membersWithStatus

/-- Status and body as sent. -/
def sent (r : Reply) (p : Preferences) (debug : Bool) : Except Failure (Int × Value) := do
  if p.alwaysOk then return (200, ← (Value.dict (r.membersInBody debug)).asBody)
  else return (r.status, ← (Value.dict r.members).asBody)

end Reply

end Listing
