import Listing.Clause
import Listing.Settings
import Listing.ValueType

/-!
# Capabilities

What one endpoint allows: page sizes, a default sort, the fields that may be sorted and
filtered by, and the names under which fields are known inside. A list of allowed fields that
is absent allows every field, and an empty one allows none. Page sizes that are not set are
those of the project's preferences.
-/

namespace Listing

/-- A field that may be filtered by: its outside name, the operator tokens it may be used
with, and the type of its values. -/
structure FieldRule where
  field : Text
  operators : List Text := []
  declared : Option ValueType := none
deriving DecidableEq, Repr

/-- What an endpoint allows. A page size is what the description says, number or not. -/
structure Capability where
  defaultPageSize : Option Value := none
  maxPageSize : Option Value := none
  defaultSort : Option SortClause := none
  sortable : Option (List Text) := none
  filterable : Option (List FieldRule) := none
  mappings : List (Text × Text) := []

/-- A description of a field rule. A value that does not count as true declares no type. -/
structure FieldSpec where
  field : Option Text := none
  operators : List Text := []
  declared : Spelled Value := {}

/-- A description of a capability. Each member has two spellings and may be null. -/
structure CapabilitySpec where
  defaultPageSize : Spelled (Option Value) := {}
  maxPageSize : Spelled (Option Value) := {}
  defaultSort : Spelled (Option SortSpec) := {}
  sortable : Spelled (Option (List Text)) := {}
  filterable : Spelled (Option (List FieldSpec)) := {}
  mappings : Spelled (Option (List (Text × Text))) := {}

def FieldSpec.toRule (spec : FieldSpec) : Except Failure FieldRule := do
  let field ← required "field" spec.field
  let word := spec.declared.get?.getD .null
  let declared ← if word.truthy then (ValueType.ofMember word).map some else .ok none
  return { field, operators := spec.operators, declared }

/-- The default sort that a description gives; the empty token gives none. -/
def CapabilitySpec.defaultSortClause (spec : CapabilitySpec) : Except Failure (Option SortClause) :=
  match spec.defaultSort.get?.join with
  | none | some (.token []) => .ok none
  | some sort => sort.toClause.map some

/-- The rules that a description gives, if it limits filtering at all. -/
def CapabilitySpec.filterableRules (spec : CapabilitySpec) :
    Except Failure (Option (List FieldRule)) :=
  match spec.filterable.get?.join with
  | none => .ok none
  | some specs => (specs.mapM FieldSpec.toRule).map some

namespace Capability

def ofSpec (spec : CapabilitySpec) : Except Failure Capability := do
  let defaultSort ← spec.defaultSortClause
  let filterable ← spec.filterableRules
  return {
    defaultPageSize := spec.defaultPageSize.get?.join
    maxPageSize := spec.maxPageSize.get?.join
    defaultSort, filterable
    sortable := spec.sortable.get?.join
    mappings := spec.mappings.get?.join.getD [] }

/-- The page size of an endpoint, from its capability or from the preferences. -/
def pageSize (c : Capability) (p : Preferences) : Value :=
  c.defaultPageSize.getD p.defaultPageSize

def greatestPageSize (c : Capability) (p : Preferences) : Value :=
  c.maxPageSize.getD p.maxPageSize

/-- The smaller of two page sizes, and the first of equal ones. Only numbers are in an order. -/
def smallerSize : Value → Value → Except Failure Number
  | .number m, .number n => .ok (if n.less m then n else m)
  | a, b => .error (.notOrdered b.kind a.kind)

@[simp] theorem smallerSize_int (i j : Int) :
    smallerSize (.int i) (.int j) = .ok (.whole (min i j)) := by
  show Except.ok (if (Number.whole j).less (.whole i) then Number.whole j else .whole i) = _
  rw [Number.less_whole]
  by_cases h : j < i
  · simp [h, Int.min_eq_right (Int.le_of_lt h)]
  · simp [h, Int.min_eq_left (Int.not_lt.1 h)]

/-- The page size of a request that asks for none: the endpoint's, held to the greatest. -/
def startingPageSize (c : Capability) (p : Preferences) : Except Failure Number :=
  smallerSize (c.pageSize p) (c.greatestPageSize p)

/-- Whether a page size has to come from the preferences. -/
def needsPreferences (c : Capability) : Bool :=
  c.defaultPageSize.isNone || c.maxPageSize.isNone

/-- The name under which a field is known inside. -/
def inside (c : Capability) (field : Text) : Text :=
  (c.mappings.lookup field).getD field

def allowsSort (c : Capability) (field : Text) : Bool :=
  match c.sortable with
  | none => true
  | some fields => fields.contains field

def ruleFor? (rules : List FieldRule) (field : Text) : Option FieldRule :=
  rules.find? fun r => r.field = field

/-- The same capability without inside names and default sort: the view of a request's own
words. -/
def outside (c : Capability) : Capability :=
  { c with mappings := [], defaultSort := none }

/-- A list of distinct names in order, as a value. -/
def namesValue (names : List Text) : Value :=
  .list ((sortedDistinct names).map .text)

def ruleRecord (r : FieldRule) : Value :=
  .dict [("field", .text r.field), ("operators", namesValue r.operators),
    ("type", (r.declared.map fun t => Value.text t.word).getD .null)]

/-- A capability by its members, with the page sizes that are in effect. -/
def record (c : Capability) (p : Preferences) : Value :=
  .dict [
    ("defaultPageSize", c.defaultPageSize.getD .null),
    ("maxPageSize", c.maxPageSize.getD .null),
    ("defaultSort", (c.defaultSort.map SortClause.record).getD .null),
    ("sortableFields", (c.sortable.map namesValue).getD .null),
    ("filterableFields",
      (c.filterable.map fun rules => Value.list (rules.map ruleRecord)).getD .null),
    ("fieldMappings", .dict (c.mappings.map fun m => (m.1, .text m.2))),
    ("effectiveDefaultPageSize", c.pageSize p),
    ("effectiveMaxPageSize", c.greatestPageSize p)]

end Capability

end Listing
