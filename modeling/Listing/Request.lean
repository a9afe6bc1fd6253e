import Listing.CommaList
import Listing.Form
import Listing.Outcome

/-!
# Requests

The four parameters of a request as raw texts, and how they are read under a capability: page
and page size as leading integers, sorts as a list of names, filters as a list of expressions.
Each item of a list is judged by itself: it becomes a clause, or it is refused with a fault,
or dropped with a warning.
-/

namespace Listing

/-- The raw parameters of a request. -/
structure Request where
  page : Option Text := none
  pageSize : Option Text := none
  sorts : Option Text := none
  filters : Option Text := none
deriving DecidableEq, Repr

def parameterNames : List Text :=
  ["page", "pageSize", "sorts", "filters"]

namespace Request

/-- The request that a look-up of parameters gives. -/
def ofLookup (find : Text → Option Text) : Request where
  page := find "page"
  pageSize := find "pageSize"
  sorts := find "sorts"
  filters := find "filters"

/-- The request in a list of parameters: of several values under a name, the first. -/
def ofPairs (pairs : List (Text × Text)) : Request :=
  ofLookup fun name => pairs.lookup name

/-- The request in the query string of a visit. -/
def ofQueryString (limit : Option Nat) (t : Text) : Except Failure Request :=
  (Form.readLimited limit t).map ofPairs

/-- The request in a table of parameters with any number of values each, some of them null. -/
def ofTable (table : List (Text × List (Option Text))) : Request :=
  ofLookup fun name => ((table.lookup name).bind List.head?).join

/-! ## Page and page size -/

/-- The sign and the digits of the integer that a text begins with, after blanks. What
follows the digits does not matter. -/
def leadingInteger (t : Text) : Option (Bool × Text) :=
  let (negative, unsigned) := NumberLiteral.readSign (trimStart t)
  let digits := (spanDigits unsigned).1
  if digits.isEmpty then none else some (negative, digits)

/-- The integer that a text begins with, if there is one. -/
def parseInt (t : Text) : Except Failure (Option Int) :=
  match leadingInteger t with
  | none => .ok none
  | some (negative, digits) =>
    if digitLimit < digits.length then .error (.tooManyDigits digits.length)
    else
      let n : Int := digitsValue digits
      .ok (some (if negative then -n else n))

/-- A positive integer at the start of a parameter. -/
def parsePositive (t : Text) : Except Failure (Option Int) :=
  (parseInt t).map fun n => n.filter (1 ≤ ·)

/-- A parameter as a positive integer, if it is one. One that is there and is none is a
fault. -/
def readPositive (fault : Text → Fault) (raw : Option Text) :
    Except Failure (Option Int × List Fault) :=
  match raw with
  | none => .ok (none, [])
  | some t => (parsePositive t).map fun n => (n, if n.isSome then [] else [fault t])

/-- The page: one, unless the request names another. -/
def readPage (r : Request) : Except Failure (Int × List Fault) :=
  (readPositive .badPage r.page).map fun (n, faults) => (n.getD 1, faults)

/-- The page size: the endpoint's, unless the request names another; held to the greatest. -/
def readPageSize (r : Request) (c : Capability) (p : Preferences) :
    Except Failure (Number × List Fault) := do
  let start ← c.startingPageSize p
  let (asked, faults) ← readPositive .badPageSize r.pageSize
  match asked with
  | some n => return (← Capability.smallerSize (.int n) (c.greatestPageSize p), faults)
  | none => return (start, faults)

def readPaging (r : Request) (c : Capability) (p : Preferences) :
    Except Failure (Int × Number × List Fault) := do
  let (page, pageFaults) ← r.readPage
  let (size, sizeFaults) ← r.readPageSize c p
  return (page, size, pageFaults ++ sizeFaults)

/-! ## Sorts -/

/-- A sort item: a name, after a minus sign if it is descending, without blanks around. -/
def sortItem : Text → SortClause
  | '-' :: name => ⟨trim name, .descending⟩
  | name => ⟨trim name, .ascending⟩

/-- The decision on one sort item. -/
def judgeSort (c : Capability) (s : SortClause) : Except Warning SortClause :=
  if c.allowsSort s.field then .ok { s with field := c.inside s.field }
  else .error (.notSortable s.field)

/-- The items of a list of sorts that have a name. -/
def sortItems (raw : Option Text) : List SortClause :=
  ((CommaList.splitSorts (raw.getD [])).map sortItem).filter fun s => s.field ≠ []

/-- The clauses and the warnings among decisions, each in order. -/
def partitionSorts (decisions : List (Except Warning SortClause)) :
    List SortClause × List Warning :=
  (decisions.filterMap fun | .ok s => some s | .error _ => none,
   decisions.filterMap fun | .ok _ => none | .error w => some w)

/-- The sorts of a request and the warnings about dropped ones. The default sort stands for
an empty list. -/
def readSorts (raw : Option Text) (c : Capability) : List SortClause × List Warning :=
  let (sorts, warnings) := partitionSorts ((sortItems raw).map (judgeSort c))
  (if sorts.isEmpty then c.defaultSort.toList else sorts, warnings)

/-! ## Filters -/

/-- The decision on one filter expression. -/
inductive Verdict where
  | accepted (clause : FilterClause)
  | refused (fault : Fault)
  | dropped (warning : Warning)

/-- The clause of an expression whose values have a type. A null check has no value. -/
def typedClause (c : Capability) (declared : Option ValueType) (e : Expression) : Verdict :=
  if e.op.checksNull then .accepted (.ofOperator (c.inside e.field) e.op .null)
  else
    match ValueType.coerce declared e.value with
    | .ok value => .accepted (.ofOperator (c.inside e.field) e.op value)
    | .error why => .refused (.badValue e.field why)

/-- The decision on an expression with an operator. -/
def judgeExpression (c : Capability) (e : Expression) : Verdict :=
  match c.filterable with
  | none => typedClause c none e
  | some rules =>
    match Capability.ruleFor? rules e.field with
    | none => .dropped (.notFilterable e.field)
    | some rule =>
      if rule.operators.contains e.op.token then typedClause c rule.declared e
      else .refused (.operatorNotAllowed e.field e.op.token)

def judgeFilter (c : Capability) (item : Text) : Verdict :=
  match Expression.read? item with
  | none => .refused (.noOperator item)
  | some e => judgeExpression c e

/-- The items of a list of filters that are not empty. -/
def filterItems (raw : Option Text) : List Text :=
  (CommaList.splitFilters (raw.getD [])).filter fun item => item ≠ []

structure Filtering where
  filters : List FilterClause
  faults : List Fault
  warnings : List Warning

/-- The clauses, faults and warnings among decisions, each in order. -/
def Filtering.ofVerdicts (verdicts : List Verdict) : Filtering where
  filters := verdicts.filterMap fun | .accepted c => some c | _ => none
  faults := verdicts.filterMap fun | .refused f => some f | _ => none
  warnings := verdicts.filterMap fun | .dropped w => some w | _ => none

def readFilters (raw : Option Text) (c : Capability) : Filtering :=
  .ofVerdicts ((filterItems raw).map (judgeFilter c))

/-! ## The whole request -/

/-- A request read under a capability: every part falls back to its default by itself. -/
def read (r : Request) (c : Capability) (p : Preferences) : Except Failure Outcome := do
  let (page, pageSize, pagingFaults) ← r.readPaging c p
  let (sorts, sortWarnings) := readSorts r.sorts c
  let filtering := readFilters r.filters c
  return {
    query := { page := page, pageSize, sorts, filters := filtering.filters }
    faults := pagingFaults ++ filtering.faults
    warnings := sortWarnings ++ filtering.warnings }

end Request

end Listing
