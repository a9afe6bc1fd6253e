import Listing.Condition
import Listing.Query

/-!
# Sources and pages

A source serves rows: it is asked for all of them, filtered by a condition, ordered, counted
and cut to a slice. What it serves and counts depends on the condition and the order asked for.
Every call is recorded, and any of them may fail. A page is a slice with the count of all rows
and what follows from it; the number of pages is the ceiling of a quotient rounded to the binary
numbers.
-/

namespace Listing

inductive Call where
  | all
  | managerAll
  | filter (condition : Condition)
  | orderBy (columns : List Text)
  | count
  | slice (start stop : Number)

/-- A computation that makes calls of some kind, and then has a result or fails. -/
structure Traced (κ α : Type) where
  calls : List κ
  result : Except Failure α

namespace Traced
variable {κ : Type}

/-- A computation without calls. -/
def of {α : Type} (result : Except Failure α) : Traced κ α := ⟨[], result⟩

/-- One computation after another; a failure ends them. -/
def andThen {α β : Type} (x : Traced κ α) (f : α → Traced κ β) : Traced κ β :=
  match x.result with
  | .error failure => ⟨x.calls, .error failure⟩
  | .ok a => ⟨x.calls ++ (f a).calls, (f a).result⟩

instance : Monad (Traced κ) where
  pure a := of (.ok a)
  bind := andThen

/-- The same computation, with each of its calls as part of a larger kind. -/
def relabel {ι α : Type} (f : κ → ι) (x : Traced κ α) : Traced ι α := ⟨x.calls.map f, x.result⟩

end Traced

/-- What a source was asked for: the rows of a condition, if there is one, in the order of
columns. -/
structure Selection where
  condition : Option Condition := none
  columns : List Text := []

/-- The selection of a condition in the order of sorts. -/
def Selection.of (condition : Condition) (sorts : List SortClause) : Selection where
  condition := some condition
  columns := orderingOf sorts

/-- A source of rows. Of what it was asked for it serves rows, which it counts, or it reports
another total; and it may fail at any call. -/
structure Source where
  rows : Selection → List Value
  total : Selection → Option Int := fun _ => none
  /-- The source is reached through the manager of a model. -/
  managed : Bool := false
  fails : Selection → Call → Option Failure := fun _ _ => none

/-- The change of a row for an answer. -/
abbrev Transform := Value → Except Failure Value

def Transform.wrap (name : Text) : Transform := fun row =>
  .ok (.dict [(name, row)])

def Transform.pick (name : Text) : Transform := fun row =>
  match row with
  | .dict members =>
    match members.lookup name with
    | some v => .ok v
    | none => .error (.missingMember name)
  | row => .error (.notIndexed row.kind)

/-- Each row changed, or the rows as they are. -/
def Transform.each (transform : Option Transform) (rows : List Value) :
    Except Failure (List Value) :=
  match transform with
  | some f => rows.mapM f
  | none => .ok rows

/-- A position in a list of some length: a negative one counts from the end, and either is
held to the list. -/
def clampPosition (length : Nat) (i : Int) : Nat :=
  if i < 0 then (i + length).toNat else min i.toNat length

/-- The items of a list from one position to before another. -/
def sliceOf {α : Type} (items : List α) (start stop : Int) : List α :=
  let first := clampPosition items.length start
  (items.drop first).take (clampPosition items.length stop - first)

structure Page where
  rows : List Value
  total : Int
  page : Number
  pageSize : Number
  totalPages : Int
  hasNext : Bool
  hasPrevious : Bool

def Page.record (p : Page) : Value :=
  .dict [("data", .list p.rows), ("total", .int p.total), ("page", .number p.page),
    ("pageSize", .number p.pageSize), ("totalPages", .int p.totalPages),
    ("hasNextPage", .flag p.hasNext), ("hasPreviousPage", .flag p.hasPrevious)]

/-- The quotient of two integers, rounded to the binary numbers. -/
def wholeQuotient (total size : Int) : Except Failure Binary64 :=
  if size = 0 then .error .divisionByZero
  else
    match Binary64.ofRatio ((total < 0) != (size < 0)) total.natAbs size.natAbs with
    | .infinite _ => .error .quotientTooLarge
    | x => .ok x

/-- The quotient of an integer and a binary number, after the integer was rounded. -/
def realQuotient (total : Int) (size : Binary64) : Except Failure Binary64 :=
  match Binary64.ofInt? total with
  | none => .error .integerTooLarge
  | some total => if size.isZero then .error .realDivisionByZero else .ok (total.div size)

/-- How many pages of a size a number of rows fills, as a binary number. -/
def pagesFilled (total : Int) : Number → Except Failure Binary64
  | .flag size => wholeQuotient total (Number.ofFlag size)
  | .whole size => wholeQuotient total size
  | .real size => realQuotient total size

/-- The least integer that is not below a binary number. -/
def leastAbove (x : Binary64) : Except Failure Int :=
  match x.ceil?, x with
  | some n, _ => .ok n
  | none, .infinite _ => .error .integerOfInfinity
  | none, _ => .error .integerOfNaN

/-- The number of pages of a size: the ceiling of the rounded quotient, and none for no rows.
-/
def pageCount (total : Int) (size : Number) : Except Failure Int :=
  if total = 0 then .ok 0 else pagesFilled total size >>= leastAbove

namespace Source

/-- A call on a source, after it was asked for a selection. -/
def call (s : Source) (asked : Selection) (c : Call) : Traced Call Unit :=
  match s.fails asked c with
  | some failure => ⟨[c], .error failure⟩
  | none => ⟨[c], .ok ()⟩

def opening (s : Source) : Call :=
  if s.managed then .managerAll else .all

def reported (s : Source) (asked : Selection) : Int :=
  (s.total asked).getD (s.rows asked).length

/-- The rows between two positions, which have to be integers. -/
def between (s : Source) (asked : Selection) (start stop : Number) :
    Except Failure (List Value) :=
  match start.toInt?, stop.toInt? with
  | some first, some last => .ok (sliceOf (s.rows asked) first last)
  | _, _ => .error .fractionalBounds

/-- The rows of a condition put in the order of sorts, if there are any. -/
def order (s : Source) (condition : Condition) (sorts : List SortClause) : Traced Call Unit :=
  if sorts.isEmpty then pure () else s.call (.of condition []) (.orderBy (orderingOf sorts))

/-- The page of a query whose filters already include those of the server. -/
def fetch (s : Source) (q : Query) (transform : Option Transform) : Traced Call Page := do
  s.call {} s.opening
  let condition ← Traced.of (conditionOf q.filters)
  s.call {} (.filter condition)
  s.order condition q.sorts
  let asked := Selection.of condition q.sorts
  s.call asked .count
  let totalPages ← Traced.of (pageCount (s.reported asked) q.pageSize)
  let start ← Traced.of q.offset
  let stop ← Traced.of (Failure.ofArithmetic (start.add? q.pageSize))
  s.call asked (.slice start stop)
  let rows ← Traced.of (s.between asked start stop)
  let rows ← Traced.of (Transform.each transform rows)
  return {
    rows, total := s.reported asked, page := q.page, pageSize := q.pageSize, totalPages
    hasNext := q.page.less totalPages, hasPrevious := Number.less 1 q.page }

/-- The page of a query, with described filters forced on it. -/
def execute (s : Source) (q : Query) (mandatory : List FilterSpec)
    (transform : Option Transform) : Traced Call Page := do
  let q ← Traced.of (q.force mandatory)
  s.fetch q transform

end Source

end Listing
