import Listing.Capability
import Listing.Clause

/-!
# Queries

A query asks for one page of the rows that satisfy its filters, in the order of its sorts. A
query is changed by a patch, which names the parts to replace: lists of sorts and filters are
replaced whole, and a part that is null stays as it was. Filters of the server are forced on a
query by removing every other filter on their fields.
-/

namespace Listing

structure Query where
  page : Number := 1
  pageSize : Number
  sorts : List SortClause := []
  filters : List FilterClause := []

/-- A description of a query: what is absent is at its default, and nothing is checked but
the clauses. -/
structure QuerySpec where
  page : Option Number := none
  pageSize : Option Number := none
  sorts : List SortSpec := []
  filters : List FilterSpec := []

/-- The preferred page size, which has to be a number. -/
def Preferences.pageSize (p : Preferences) : Except Failure Number :=
  match p.defaultPageSize with
  | .number n => .ok n
  | v => .error (.notScaled v.kind)

def QuerySpec.toQuery (spec : QuerySpec) (p : Preferences) : Except Failure Query := do
  let sorts ← spec.sorts.mapM SortSpec.toClause
  let filters ← spec.filters.mapM FilterSpec.toClause
  let pageSize ← match spec.pageSize with
    | some n => .ok n
    | none => p.pageSize
  return { page := spec.page.getD 1, pageSize, sorts, filters }

/-- The part of a query that a change replaces, under its key. -/
inductive Change where
  | page (number : Option Number)
  /-- The page size, under the key with an underscore or with a capital. -/
  | pageSize (underscored : Bool) (number : Option Number)
  | sorts (specs : Option (List SortSpec))
  | filters (specs : Option (List FilterSpec))
  /-- A page or page size that is no number, under its key. -/
  | misfit (key : Text) (kind : Value.Kind)
  | unknown (key : Text)

/-- Changes in order, at most one under each key. -/
abbrev Patch := List Change

namespace Change

def key : Change → Text
  | page _ => "page"
  | pageSize underscored _ => if underscored then "page_size" else "pageSize"
  | sorts _ => "sorts"
  | filters _ => "filters"
  | misfit key _ | unknown key => key

/-- A number for a page or a page size, which is at least one. -/
def positive (key : Text) (n : Number) : Except Failure Number :=
  if n.less 1 then .error (.notPositive key n) else .ok n

/-- The change that the member of a name describes; a null one leaves its part as it is. -/
def ofMember (key : Text) (v : Value) : Change :=
  if key = "page" then sized v .page
  else if key = "pageSize" then sized v (.pageSize false)
  else if key = "page_size" then sized v (.pageSize true)
  else if key = "sorts" then .sorts (specs v SortSpec.ofValue)
  else if key = "filters" then .filters (specs v FilterSpec.ofValue)
  else .unknown key
where
  sized (v : Value) (change : Option Number → Change) : Change :=
    match v with
    | .null => change none
    | .number n => change (some n)
    | v => .misfit key v.kind
  specs {α : Type} (v : Value) (spec : Value → α) : Option (List α) :=
    if v.isNull then none else some (v.elements.map spec)

def apply (c : Change) (q : Query) : Except Failure Query :=
  match c with
  | page none | pageSize _ none | sorts none | filters none => .ok q
  | page (some n) => (positive c.key n).map fun n => { q with page := n }
  | pageSize _ (some n) => (positive c.key n).map fun n => { q with pageSize := n }
  | sorts (some specs) => (specs.mapM SortSpec.toClause).map fun s => { q with sorts := s }
  | filters (some specs) => (specs.mapM FilterSpec.toClause).map fun f => { q with filters := f }
  | misfit _ kind => .error (.notOrdered kind .whole)
  | unknown key => .error (.unknownPart key)

end Change

namespace Patch

/-- A patch with one more change: it takes the place of the change under its key, or comes
last. -/
def put (c : Change) : Patch → Patch
  | [] => [c]
  | d :: rest => if d.key = c.key then c :: rest else d :: put c rest

def overlay (patch later : Patch) : Patch :=
  later.foldl (fun acc c => put c acc) patch

/-- The patch of changes in the order written. -/
def ofList (changes : List Change) : Patch :=
  overlay [] changes

/-- The patch that members describe. -/
def ofMembers (members : Members) : Patch :=
  ofList (members.map fun m => .ofMember m.1 m.2)

end Patch

namespace Query

/-- The number of rows before the page. -/
def offset (q : Query) : Except Failure Number :=
  Failure.ofArithmetic ((q.page.sub? 1).bind fun before => before.mul? q.pageSize)

@[simp] theorem offset_whole (page size : Int) (sorts : List SortClause)
    (filters : List FilterClause) :
    (offset ⟨.whole page, .whole size, sorts, filters⟩) = .ok (.whole ((page - 1) * size)) :=
  rfl

/-- The query of page one with the preferred page size, without sorts and filters. -/
def bare (p : Preferences) : Except Failure Query :=
  p.pageSize.map fun pageSize => { pageSize }

/-- The query that a request without parameters asks for. -/
def start (c : Capability) (p : Preferences) : Except Failure Query :=
  (c.startingPageSize p).map fun pageSize => { pageSize, sorts := c.defaultSort.toList }

def merge (q : Query) (patch : Patch) : Except Failure Query :=
  patch.foldlM (fun q c => c.apply q) q

/-- The names that a merge gives to its own parts, so that no named change can have them. -/
def mergeNames : List Text := ["current", "partial"]

/-- The query after a patch with named changes put over it. -/
def mergeNamed (q : Query) (patch changes : Patch) : Except Failure Query :=
  match changes.find? fun c => mergeNames.contains c.key with
  | some c => .error (.nameTaken "merge_sieve_query()" c.key)
  | none => q.merge (patch.overlay changes)

/-- The filters with others forced on them: those come first, and every filter on one of
their fields is removed. -/
def forced (mandatory filters : List FilterClause) : List FilterClause :=
  mandatory ++ filters.filter fun f => !(fieldsOf mandatory).contains f.field

/-- The query with described filters forced on it. -/
def force (q : Query) (mandatory : List FilterSpec) : Except Failure Query := do
  let mandatory ← mandatory.mapM FilterSpec.toClause
  return if mandatory.isEmpty then q else { q with filters := forced mandatory q.filters }

/-- The patch that describes every part of a query. -/
def toPatch (q : Query) : Patch :=
  [.page (some q.page), .pageSize false (some q.pageSize),
   .sorts (some (q.sorts.map SortClause.toSpec)),
   .filters (some (q.filters.map FilterClause.toSpec))]

/-- Equality of lists of filter clauses. -/
def sameFilters : List FilterClause → List FilterClause → Bool
  | [], [] => true
  | a :: as, b :: bs => a.same b && sameFilters as bs
  | _, _ => false

/-- Equality of queries, with equality of numbers and values. -/
def same (a b : Query) : Bool :=
  a.page.same b.page && a.pageSize.same b.pageSize && a.sorts = b.sorts
    && sameFilters a.filters b.filters

/-- A query by its members. -/
def description (q : Query) : Members :=
  [("page", .number q.page), ("pageSize", .number q.pageSize),
    ("sorts", .list (q.sorts.map SortClause.record)),
    ("filters", .list (q.filters.map FilterClause.record))]

/-- A query by its members, with its offset. -/
def record (q : Query) : Except Failure Value := do
  let offset ← q.offset
  return .dict (q.description.put "offset" (.number offset))

end Query

end Listing
