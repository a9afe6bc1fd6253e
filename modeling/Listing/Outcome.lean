import Listing.Query

/-!
# Outcomes

What reading a request gives: a query that is always there, the faults for which the request
should be rejected, and warnings about clauses that were dropped. Here is also what is logged
about them.
-/

namespace Listing

/-- A reason to reject a request. -/
inductive Fault where
  | badPage (raw : Text)
  | badPageSize (raw : Text)
  /-- A filter expression has no operator after a field. -/
  | noOperator (expression : Text)
  | operatorNotAllowed (field token : Text)
  | badValue (field : Text) (why : BadValue)
deriving DecidableEq, Repr

namespace Fault

/-- The kind under which a fault is reported. -/
def kind : Fault → Text
  | badPage _ | badPageSize _ => "invalid_pagination"
  | noOperator _ | operatorNotAllowed .. | badValue .. => "invalid_filter"

/-- The field or parameter that a fault is about. -/
def field? : Fault → Option Text
  | badPage _ => some "page"
  | badPageSize _ => some "pageSize"
  | noOperator _ => none
  | operatorNotAllowed field _ | badValue field _ => some field

def message : Fault → Text
  | badPage raw => "Invalid page number: '" ++ raw ++ "'. Must be a positive integer.".toList
  | badPageSize raw => "Invalid page size: '" ++ raw ++ "'. Must be a positive integer.".toList
  | noOperator expression => "No valid operator found in filter: " ++ expression
  | operatorNotAllowed field token =>
    "Operator '" ++ token ++ "' is not allowed for field '".toList ++ field ++ ['\'']
  | badValue field why => "Invalid value for field '" ++ field ++ "': ".toList ++ why.message

def record (f : Fault) : Value :=
  .dict [("type", .text f.kind), ("field", (f.field?.map Value.text).getD .null),
    ("message", .text f.message)]

end Fault

/-- A clause that was dropped. -/
inductive Warning where
  | notSortable (field : Text)
  | notFilterable (field : Text)
deriving DecidableEq, Repr

def Warning.message : Warning → Text
  | notSortable field => "Field '" ++ field ++ "' is not sortable. Ignored.".toList
  | notFilterable field => "Field '" ++ field ++ "' is not filterable. Ignored.".toList

/-- What reading a request gives. -/
structure Outcome where
  query : Query
  faults : List Fault := []
  warnings : List Warning := []

/-- How serious a line of the log is. -/
inductive Level where
  | debug | info | error
deriving DecidableEq, Repr

structure LogLine where
  level : Level
  message : Text
deriving DecidableEq, Repr

namespace Outcome

def valid (o : Outcome) : Bool :=
  o.faults.isEmpty

/-- What is logged about a request: each dropped clause, then each fault. -/
def log (o : Outcome) (p : Preferences) : List LogLine :=
  o.warnings.map (fun w =>
    ⟨if p.logWarnings then .info else .debug, "Sieve clause dropped: " ++ w.message⟩) ++
  o.faults.map (fun f =>
    ⟨.debug, "Sieve parse error on " ++ f.field?.getD "None" ++ ": ".toList ++ f.message⟩)

end Outcome

end Listing
