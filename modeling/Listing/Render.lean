import Listing.CommaList
import Listing.Query
import Listing.Value.Text

/-!
# Rendered queries

The parameters that ask for a query: page and page size where they differ from the defaults,
and the lists of sorts and filters where they are not empty.
-/

namespace Listing

/-- A sort clause as an item of a list. -/
def SortClause.text (c : SortClause) : Text :=
  match c.direction with
  | .descending => '-' :: c.field
  | .ascending => c.field

/-- A filter clause as an item of a list, with the commas of its value escaped. -/
def FilterClause.text (c : FilterClause) : Text :=
  c.field ++ c.token ++ CommaList.escape c.value.toText

def sortsText (sorts : List SortClause) : Text :=
  joinWith [','] (sorts.map SortClause.text)

def filtersText (filters : List FilterClause) : Text :=
  joinWith [','] (filters.map FilterClause.text)

/-- A parameter that is left out at its default. -/
def paramUnless (isDefault : Bool) (name value : Text) : List (Text × Text) :=
  if isDefault then [] else [(name, value)]

/-- The parameters of a query that are not at their defaults, in the order page, page size,
sorts, filters. -/
def Query.params (q : Query) (defaultPageSize : Value) : List (Text × Text) :=
  paramUnless (q.page.same 1) "page" q.page.text ++
  paramUnless ((Value.number q.pageSize).same defaultPageSize) "pageSize" q.pageSize.text ++
  paramUnless q.sorts.isEmpty "sorts" (sortsText q.sorts) ++
  paramUnless q.filters.isEmpty "filters" (filtersText q.filters)

/-- Whether every number among the parameters of a query can be written. -/
def Query.writable (q : Query) (defaultPageSize : Value) : Bool :=
  q.page.writable
    && ((Value.number q.pageSize).same defaultPageSize || q.pageSize.writable)
    && q.filters.all fun f => f.value.writable

/-- The parameters of a query, unless a number among them is too long to be written. -/
def Query.written (q : Query) (defaultPageSize : Value) : Except Failure (List (Text × Text)) :=
  if q.writable defaultPageSize then .ok (q.params defaultPageSize) else .error .tooLongToWrite

end Listing
