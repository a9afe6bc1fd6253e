import Listing.Clause

/-!
# Conditions

Filters as the condition that a source of rows evaluates: a tree of conjunctions, each possibly
negated, over tests of a path against a value. The last part of a path may name the way of
testing; paths are written with two underscores between their parts.

Some names are not those of fields when they stand alone as a path: they mark a condition that
has no tests, and such a condition gives way to any other.
-/

namespace Listing

inductive Joining where
  | all | any | one
deriving DecidableEq, Repr

namespace Joining

def word : Joining → Text
  | all => "AND"
  | any => "OR"
  | one => "XOR"

/-- The way of joining that a value has to name. -/
def ofValue (v : Value) : Except Failure Joining :=
  match v.text?.bind fun w => [all, any, one].find? fun j => j.word = w with
  | some j => .ok j
  | none => .error .unknownJoining

end Joining

inductive Condition where
  | test (path : Text) (value : Value)
  /-- All of some conditions, or not all of them. -/
  | all (negated : Bool) (children : List Condition)
  /-- No tests, under a way of joining and a mark of negation, which may be any value. -/
  | blank (joining : Joining) (mark : Value)

namespace Condition

def always : Condition := .all false []

def single (negated : Bool) (path : Text) (value : Value) : Condition :=
  .all negated [.test path value]

def isEmpty : Condition → Bool
  | .all _ [] | .blank .. => true
  | _ => false

/-- The opposite of a condition. A mark of negation counts as true or not. -/
def negate : Condition → Condition
  | .all negated children => .all (!negated) children
  | .blank joining mark => .blank joining (.flag (!mark.truthy))
  | .test path value => .single true path value

/-- A condition as children of a conjunction: the children of a conjunction that is not
negated, and otherwise the condition itself. -/
def asChildren : Condition → List Condition
  | .all false children => children
  | c => [c]

/-- Both conditions. An empty one gives way to the other. -/
def both (a b : Condition) : Condition :=
  if a.isEmpty then b
  else if b.isEmpty then a
  else .all false (a.asChildren ++ b.asChildren)

end Condition

/-- A field as a path: two underscores for each dot. -/
def fieldPath (field : Text) : Text :=
  field.flatMap fun c => if c = '.' then ['_', '_'] else [c]

/-- The name of a comparison at the end of a path. -/
def Comparison.lookup : Comparison → Text
  | .greaterThan => "gt"
  | .greaterOrEqual => "gte"
  | .lessThan => "lt"
  | .lessOrEqual => "lte"
  | .contains => "contains"
  | .startsWith => "startswith"
  | .endsWith => "endswith"
  | .equal | .notEqual => "exact"
  | .isNull | .isNotNull => "isnull"

def lookupPath (field lookup : Text) : Text :=
  fieldPath field ++ ['_', '_'] ++ lookup

/-- The condition that a path has a value. The names that are not those of fields mark a
condition without tests, except one that can stand for nothing at all. -/
def namedCondition (path : Text) (value : Value) : Except Failure Condition :=
  if path = "self".toList then .error (.nameTaken "Q.__init__()" path)
  else if path = "_negated".toList then .ok (.blank .all value)
  else if path = "_connector".toList then
    (Joining.ofValue value).map fun joining => .blank joining (.flag false)
  else .ok (.single false path value)

/-- The condition of equality with a value, which for null is a test for absence. -/
def equalCondition (field : Text) (value : Value) : Except Failure Condition :=
  if value.isNull then .ok (.single false (lookupPath field "isnull") (.flag true))
  else namedCondition (fieldPath field) value

/-- The condition of a clause under an operator. Equality is negated by the operator, the
other comparisons by the clause's flag. -/
def FilterClause.conditionFor (c : FilterClause) (kind : Comparison) : Except Failure Condition :=
  match kind with
  | .isNull => .ok (.single false (lookupPath c.field "isnull") (.flag true))
  | .isNotNull => .ok (.single false (lookupPath c.field "isnull") (.flag false))
  | .equal => equalCondition c.field c.value
  | .notEqual => (equalCondition c.field c.value).map Condition.negate
  | kind =>
    let lookup := if c.ignoresCase.truthy then 'i' :: kind.lookup else kind.lookup
    .ok (.single c.negated.truthy (lookupPath c.field lookup) c.value)

def FilterClause.condition (c : FilterClause) : Except Failure Condition :=
  Operator.ofToken c.token >>= fun op => c.conditionFor op.comparison

/-- The condition that all clauses hold. -/
def conditionOf (filters : List FilterClause) : Except Failure Condition :=
  filters.foldlM (fun acc c => (c.condition).map acc.both) .always

/-- The columns of a source's order: paths, after a minus sign if they descend. -/
def orderingOf (sorts : List SortClause) : List Text :=
  sorts.map fun s =>
    match s.direction with
    | .descending => '-' :: fieldPath s.field
    | .ascending => fieldPath s.field

end Listing
