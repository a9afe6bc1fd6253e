import Listing.Link
import Listing.Proofs.Filters
import Listing.Proofs.Numerals
import Listing.Proofs.QueryString
import Listing.Proofs.Sorts

/-!
# Queries asked again

The parameters of a query make a request, `Query.asked`. For a query that was read in the words
of a request, without inside names and default sort, that request is read without a fault or a
warning and gives what was read, with the page size held to the greatest: `read_asked`.
-/

namespace Listing

/-! ## The request of a query -/

/-- The request that the parameters of a query make. -/
def Query.asked (q : Query) (defaultPageSize : Value) : Request where
  page := if q.page.same 1 then none else some q.page.text
  pageSize :=
    if (Value.number q.pageSize).same defaultPageSize then none else some q.pageSize.text
  sorts := if q.sorts.isEmpty then none else some (sortsText q.sorts)
  filters := if q.filters.isEmpty then none else some (filtersText q.filters)

theorem lookup_paramUnless (isDefault : Bool) (name value key : Text) :
    (paramUnless isDefault name value).lookup key =
      if isDefault then none else if key = name then some value else none := by
  cases isDefault with
  | true => rfl
  | false =>
    by_cases same : key = name
    · simp [paramUnless, same]
    · have apart : (key == name) = false := by simpa using same
      simp [paramUnless, List.lookup_cons, same, apart]

/-- Each name has its own parameter. -/
theorem ofPairs_params (q : Query) (defaultPageSize : Value) :
    Request.ofPairs (q.params defaultPageSize) = q.asked defaultPageSize := by
  unfold Request.ofPairs Request.ofLookup Query.params Query.asked
  simp only [List.lookup_append, lookup_paramUnless, Request.mk.injEq]
  refine ⟨?_, ?_, ?_, ?_⟩ <;> simp

/-- A request looks at its own names only. -/
theorem ofLookup_congr {find other : Text → Option Text}
    (alike : ∀ name ∈ parameterNames, find name = other name) :
    Request.ofLookup find = Request.ofLookup other := by
  unfold Request.ofLookup
  rw [Request.mk.injEq]
  exact ⟨alike _ (by decide), alike _ (by decide), alike _ (by decide), alike _ (by decide)⟩

/-- Parameters under other names do not change the request. -/
theorem ofPairs_append {foreign : List (Text × Text)}
    (others : ∀ pair ∈ foreign, pair.1 ∉ parameterNames) (pairs : List (Text × Text)) :
    Request.ofPairs (foreign ++ pairs) = Request.ofPairs pairs := by
  apply ofLookup_congr
  intro name hname
  have absent : foreign.lookup name = none := by
    rw [List.lookup_eq_none_iff]
    intro pair hpair
    have apart : name ≠ pair.1 := fun same => others pair hpair (same ▸ hname)
    simpa using apart
  rw [List.lookup_append, absent, Option.none_or]

/-- The parameters of a query make its request in an address, whatever other parameters stand
before them. -/
theorem request_write {foreign : List (Text × Text)}
    (others : ∀ pair ∈ foreign, pair.1 ∉ parameterNames) (q : Query) (defaultPageSize : Value)
    (a : Address) :
    ({ a with query := Form.write (foreign ++ q.params defaultPageSize) } : Address).request =
      q.asked defaultPageSize := by
  show Request.ofPairs (Form.read (Form.write _)) = _
  rw [Form.read_write, ofPairs_append others, ofPairs_params]

/-- A query is written if every number among its parameters can be. -/
theorem written_eq_ok_iff {q : Query} {defaultPageSize : Value} {params : List (Text × Text)} :
    q.written defaultPageSize = .ok params ↔
      q.writable defaultPageSize = true ∧ q.params defaultPageSize = params := by
  unfold Query.written
  cases q.writable defaultPageSize with
  | true => simp
  | false => simp

/-! ## Paging -/

/-- The page sizes of an endpoint, which are integers. -/
structure Capability.Sized (c : Capability) (p : Preferences) (size greatest : Int) : Prop where
  size : c.pageSize p = .int size
  greatest : c.greatestPageSize p = .int greatest

namespace Request
variable {c : Capability} {p : Preferences} {size greatest : Int}

theorem startingPageSize_of_sized (sized : c.Sized p size greatest) :
    c.startingPageSize p = .ok (.whole (min size greatest)) := by
  rw [Capability.startingPageSize, sized.size, sized.greatest, Capability.smallerSize_int]

/-- What a page size is read as: the one asked for or the endpoint's, held to the greatest. -/
theorem readPageSize_of_sized (sized : c.Sized p size greatest) {r : Request} {asked : Option Int}
    {faults : List Fault} (h : readPositive .badPageSize r.pageSize = .ok (asked, faults)) :
    r.readPageSize c p = .ok (.whole (min (asked.getD size) greatest), faults) := by
  unfold readPageSize
  rw [startingPageSize_of_sized sized, h, sized.greatest]
  cases asked with
  | none => rfl
  | some n =>
    show (Capability.smallerSize (.int n) (.int greatest) >>= fun s => Except.ok (s, faults)) = _
    rw [Capability.smallerSize_int]
    rfl

theorem positive_of_readPositive {fault : Text → Fault} {raw : Option Text} {n : Int}
    {faults : List Fault} (h : readPositive fault raw = .ok (some n, faults)) :
    1 ≤ n ∧ (Number.whole n).writable = true := by
  cases raw with
  | none => simp [readPositive] at h
  | some t =>
    obtain ⟨parsed, read, same⟩ := map_eq_ok_iff.1 h
    obtain ⟨rfl, -⟩ := Prod.mk.inj same
    exact writable_of_parsePositive read

/-- A page or page size that can be written is read back, and one that is not there leaves the
default. -/
theorem readPositive_unless {fault : Text → Fault} {n : Int} {isDefault : Bool}
    (written : isDefault = false → 1 ≤ n ∧ (Number.whole n).writable = true) :
    readPositive fault (if isDefault then none else some (Number.whole n).text) =
      .ok (if isDefault then none else some n, []) := by
  cases isDefault with
  | true => rfl
  | false =>
    obtain ⟨positive, writable⟩ := written rfl
    show (parsePositive (intText n)).map _ = _
    rw [parsePositive_intText positive writable]
    rfl

/-- What reading a request knows of its page and page size. -/
structure Paged (size greatest page pageSize : Int) : Prop where
  page_pos : 1 ≤ page
  page_writable : (Number.whole page).writable = true
  within : pageSize ≤ greatest
  size_pos : pageSize = size ∨ 1 ≤ pageSize

/-- A page that was read is positive and can be written again, and a page size is the one asked for
or the endpoint's, held to the greatest. -/
theorem facts_of_readPaging (sized : c.Sized p size greatest) {r : Request} {page : Int}
    {read : Number} {faults : List Fault} (h : r.readPaging c p = .ok (page, read, faults)) :
    1 ≤ page ∧ (Number.whole page).writable = true ∧
      ∃ given : Option Int, (∀ n, given = some n → 1 ≤ n) ∧
        read = .whole (min (given.getD size) greatest) := by
  obtain ⟨⟨n, pageFaults⟩, pageRead, h⟩ := bind_eq_ok_iff.1 h
  obtain ⟨⟨s, sizeFaults⟩, sizeRead, h⟩ := bind_eq_ok_iff.1 h
  obtain ⟨rfl, rfl, -⟩ : n = page ∧ s = read ∧ _ = faults := by
    simpa [pure, Except.pure] using h
  obtain ⟨⟨asked, _⟩, askedRead, same⟩ := map_eq_ok_iff.1 pageRead
  obtain ⟨rfl, -⟩ := Prod.mk.inj same
  have page_facts : 1 ≤ asked.getD 1 ∧ (Number.whole (asked.getD 1)).writable = true := by
    cases asked with
    | none => exact ⟨Int.le_refl 1, by decide⟩
    | some n => exact positive_of_readPositive askedRead
  cases sizeAsked : readPositive .badPageSize r.pageSize with
  | error f =>
    rw [readPageSize, startingPageSize_of_sized sized, sizeAsked] at sizeRead
    contradiction
  | ok given =>
    obtain ⟨given, givenFaults⟩ := given
    rw [readPageSize_of_sized sized sizeAsked] at sizeRead
    obtain ⟨rfl, -⟩ := Prod.mk.inj (Except.ok.inj sizeRead)
    refine ⟨page_facts.1, page_facts.2, given, ?_, rfl⟩
    rintro n rfl
    exact (positive_of_readPositive sizeAsked).1

theorem paged_of_readPaging (sized : c.Sized p size greatest) (atLeastOne : 1 ≤ greatest)
    {r : Request} {page : Int} {read : Number} {faults : List Fault}
    (h : r.readPaging c p = .ok (page, read, faults)) :
    ∃ pageSize, read = .whole pageSize ∧ Paged size greatest page pageSize := by
  obtain ⟨positive, writable, given, asked, rfl⟩ := facts_of_readPaging sized h
  refine ⟨_, rfl, positive, writable, Int.min_le_right _ _, ?_⟩
  -- The endpoint's own size may be below one, a size that was asked for may not.
  cases given with
  | none =>
    show min size greatest = size ∨ 1 ≤ min size greatest
    omega
  | some n =>
    have positive := asked n rfl
    show min n greatest = size ∨ 1 ≤ min n greatest
    omega

/-- A page and a page size that were written are read again, and the size is held to the greatest
once more. -/
theorem readPaging_asked (sized : c.Sized p size greatest) {page pageSize : Int}
    {sorts : List SortClause} {filters : List FilterClause} (positive : 1 ≤ page)
    (size_pos : pageSize = size ∨ 1 ≤ pageSize)
    (writable :
      (Query.mk (.whole page) (.whole pageSize) sorts filters).writable (.int size) = true) :
    ((Query.mk (.whole page) (.whole pageSize) sorts filters).asked (.int size)).readPaging c p =
      .ok (page, .whole (min pageSize greatest), []) := by
  obtain ⟨pageWritable, sizeWritable⟩ : (Number.whole page).writable = true ∧
      (pageSize = size ∨ (Number.whole pageSize).writable = true) := by
    simp only [Query.writable, Value.same_number, Number.same_whole, Bool.and_eq_true,
      Bool.or_eq_true, decide_eq_true_eq] at writable
    exact writable.1
  have pageRead : ((Query.mk (.whole page) (.whole pageSize) sorts filters).asked
      (.int size)).readPage = .ok (page, []) := by
    have read : readPositive .badPage
        (if decide (page = 1) then none else some (Number.whole page).text)
        = .ok (if decide (page = 1) then none else some page, []) :=
      readPositive_unless fun _ => ⟨positive, pageWritable⟩
    simp only [readPage, Query.asked, Number.same_one, read]
    by_cases first : page = 1
    · simp [first, Except.map]
    · simp [first, Except.map]
  have sizeRead : ((Query.mk (.whole page) (.whole pageSize) sorts filters).asked
      (.int size)).readPageSize c p = .ok (.whole (min pageSize greatest), []) := by
    have read : readPositive .badPageSize
        (if decide (pageSize = size) then none else some (Number.whole pageSize).text)
        = .ok (if decide (pageSize = size) then none else some pageSize, []) :=
      readPositive_unless fun apart =>
        ⟨size_pos.resolve_left (of_decide_eq_false apart),
         sizeWritable.resolve_left (of_decide_eq_false apart)⟩
    -- Not written means the default, which is held to the greatest like any other size.
    have asked := readPageSize_of_sized sized
      (r := (Query.mk (.whole page) (.whole pageSize) sorts filters).asked (.int size))
      (by simpa only [Query.asked, Value.same_number, Number.same_whole] using read)
    rw [asked]
    by_cases same : pageSize = size
    · simp [same]
    · simp [same]
  rw [readPaging, pageRead]
  show ((readPageSize _ c p) >>= fun s => Except.ok (page, s.1, [] ++ s.2)) = _
  rw [sizeRead]
  rfl

/-! ## Sorts and filters -/

theorem sortItems_asked {q : Query} (all : ∀ s ∈ q.sorts, s.Listable) (defaultPageSize : Value) :
    sortItems (q.asked defaultPageSize).sorts = q.sorts := by
  unfold Query.asked
  cases empty : q.sorts.isEmpty with
  | true => exact (List.isEmpty_iff.1 empty).symm
  | false => exact sortItems_sortsText all

/-- Without inside names and default sort, the sorts are the allowed items. -/
theorem readSorts_outside (raw : Option Text) (c : Capability) :
    (readSorts raw c.outside).1 = (sortItems raw).filter fun s => c.allowsSort s.field := by
  have unnamed : ∀ s : SortClause,
      ({ s with field := c.outside.inside s.field } : SortClause) = s := fun s => rfl
  simp only [readSorts_of_no_default (c := c.outside) rfl, partitionSorts_judgeSort, unnamed,
    List.map_id']
  rfl

/-- Allowed sorts that were written are read as they were before. -/
theorem readSorts_asked {q : Query} {raw : Option Text}
    (same : q.sorts = (readSorts raw c.outside).1) (defaultPageSize : Value) :
    readSorts (q.asked defaultPageSize).sorts c = ((readSorts raw c).1, []) := by
  rw [readSorts_outside] at same
  have listable : ∀ s ∈ q.sorts, s.Listable := by
    intro s hs
    rw [same] at hs
    exact listable_of_mem_sortItems (List.mem_filter.1 hs).1
  unfold readSorts
  rw [sortItems_asked listable, same, partitionSorts_judgeSort, partitionSorts_judgeSort]
  simp

theorem readFilters_asked {q : Query} (defaultPageSize : Value) :
    readFilters (q.asked defaultPageSize).filters c =
      readFilters (some (filtersText q.filters)) c := by
  unfold Query.asked
  cases empty : q.filters.isEmpty with
  | true =>
    rw [List.isEmpty_iff.1 empty]
    rfl
  | false => rfl

/-! ## The whole query -/

/-- The query with the sorts and filters of a request. -/
def query (r : Request) (c : Capability) (page pageSize : Int) : Query where
  page := .whole page
  pageSize := .whole pageSize
  sorts := (readSorts r.sorts c).1
  filters := (readFilters r.filters c).filters

/-- A request that is read has a page and a page size that are read. -/
theorem exists_readPaging_of_read {r : Request} {o : Outcome} (h : r.read c p = .ok o) :
    ∃ page read faults, r.readPaging c p = .ok (page, read, faults) ∧ o.query =
      { page := .whole page, pageSize := read, sorts := (readSorts r.sorts c).1,
        filters := (readFilters r.filters c).filters } := by
  cases paging : r.readPaging c p with
  | error f =>
    rw [read_of_readPaging_error paging] at h
    contradiction
  | ok read =>
    obtain ⟨page, read, faults⟩ := read
    rw [read_of_readPaging paging] at h
    rw [← Except.ok.inj h]
    exact ⟨page, read, faults, rfl, rfl⟩

/-- What reading a request gives, apart from faults and warnings. -/
theorem query_of_read (sized : c.Sized p size greatest) (atLeastOne : 1 ≤ greatest) {r : Request}
    {o : Outcome} (h : r.read c p = .ok o) :
    ∃ page pageSize, Paged size greatest page pageSize ∧ o.query = r.query c page pageSize := by
  obtain ⟨page, read, faults, paging, query⟩ := exists_readPaging_of_read h
  obtain ⟨pageSize, rfl, paged⟩ := paged_of_readPaging sized atLeastOne paging
  exact ⟨page, pageSize, paged, query⟩

/-- A request without page and page size is read at once. -/
theorem read_unpaged (sized : c.Sized p size greatest) (sorts filters : Option Text) :
    ({ sorts, filters } : Request).read c p = .ok {
      query := ({ sorts, filters } : Request).query c 1 (min size greatest)
      faults := (readFilters filters c).faults
      warnings := (readSorts sorts c).2 ++ (readFilters filters c).warnings } := by
  have noSize : readPositive .badPageSize ({ sorts, filters } : Request).pageSize =
      .ok (none, []) := rfl
  have sizeRead : ({ sorts, filters } : Request).readPageSize c p =
      .ok (.whole (min size greatest), []) := readPageSize_of_sized sized noSize
  have paging : ({ sorts, filters } : Request).readPaging c p =
      .ok (1, .whole (min size greatest), []) := by
    rw [readPaging, sizeRead]
    rfl
  exact read_of_readPaging paging

/-- A query that was read in a request's own words asks for what the request asks for, with
another page and page size. -/
theorem read_asked (sized : c.Sized p size greatest) (keeps : c.KeepsTexts) {r : Request}
    (noCommas : ∀ f ∈ (readFilters r.filters c.outside).filters, ',' ∉ f.field)
    {page pageSize : Int} (positive : 1 ≤ page) (size_pos : pageSize = size ∨ 1 ≤ pageSize)
    (writable : (r.query c.outside page pageSize).writable (.int size) = true) :
    ((r.query c.outside page pageSize).asked (.int size)).read c p =
      .ok { query := r.query c page (min pageSize greatest) } := by
  have sorts : readSorts ((r.query c.outside page pageSize).asked (.int size)).sorts c =
      ((readSorts r.sorts c).1, []) := readSorts_asked rfl (.int size)
  have filters : readFilters ((r.query c.outside page pageSize).asked (.int size)).filters c =
      ⟨(readFilters r.filters c).filters, [], []⟩ :=
    (readFilters_asked _).trans (readFilters_filtersText keeps r.filters noCommas)
  have read := read_of_readPaging (r := (r.query c.outside page pageSize).asked (.int size))
    (readPaging_asked sized positive size_pos writable)
  rw [read, sorts, filters]
  rfl

end Request

end Listing
