import Listing.Proofs.Forced

/-!
# Walks over the pages

Turning pages from the first on, as long as a page says that there is a next one.

* **a slice**: the rows of a page are the next ones after those of the pages before
  (`sliceOf_nat`);
* **a page**: what a source gives for it of the rows that it serves (`pageAt_eq`);
* **a walk**: from any of its pages on, a walk gives the rows that are left (`exists_walk`), by
  induction on the number of pages to come;
* **coverage**: a walk from the first page gives every row once exactly if the forced filters make
  a condition and the page size is not so large that the quotient is rounded to zero
  (`covers_iff`).
-/

namespace Listing

/-! ## Slices -/

theorem clampPosition_nat (length i : Nat) : clampPosition length i = min i length := by
  rw [clampPosition, if_neg (by omega), Int.toNat_natCast]

theorem sliceOf_nat {α : Type} (items : List α) (start stop : Nat) :
    sliceOf items start stop = (items.drop start).take (stop - start) := by
  rw [sliceOf, clampPosition_nat, clampPosition_nat]
  rcases Nat.le_total start items.length with inside | beyond
  · rw [Nat.min_eq_left inside, List.take_eq_take_iff, List.length_drop]
    omega
  · rw [Nat.min_eq_right beyond, List.drop_length, List.drop_eq_nil_of_le beyond]
    simp

/-! ## Walks -/

/-- The pages from one on, if each can be fetched: the walk goes on as long as a page says that
there is a next one. -/
inductive Walk (fetch : Int → Except Failure Page) : Int → List Page → Prop where
  | last {page : Int} {shown : Page} (fetched : fetch page = .ok shown)
      (done : shown.hasNext = false) : Walk fetch page [shown]
  | next {page : Int} {shown : Page} {rest : List Page} (fetched : fetch page = .ok shown)
      (more : shown.hasNext = true) (later : Walk fetch (page + 1) rest) :
      Walk fetch page (shown :: rest)

/-- From one page there is one walk. -/
theorem Walk.unique {fetch : Int → Except Failure Page} {page : Int} {pages others : List Page}
    (h : Walk fetch page pages) (h' : Walk fetch page others) : pages = others := by
  induction h generalizing others with
  | last fetched done =>
    cases h' with
    | last fetched' => rw [Except.ok.inj (fetched.symm.trans fetched')]
    | next fetched' more =>
      rw [← Except.ok.inj (fetched.symm.trans fetched'), done] at more
      contradiction
  | next fetched more later ih =>
    cases h' with
    | last fetched' done =>
      rw [← Except.ok.inj (fetched.symm.trans fetched'), more] at done
      contradiction
    | next fetched' _ later' => rw [Except.ok.inj (fetched.symm.trans fetched'), ih later']

theorem Walk.exists_first {fetch : Int → Except Failure Page} {page : Int} {pages : List Page}
    (h : Walk fetch page pages) : ∃ shown rest, fetch page = .ok shown ∧ pages = shown :: rest := by
  cases h with
  | last fetched => exact ⟨_, [], fetched, rfl⟩
  | next fetched => exact ⟨_, _, fetched, rfl⟩

/-- The change of every row of an answer succeeds, and is this function. -/
def Transform.Total (transform : Option Transform) (f : Value → Value) : Prop :=
  ∀ row, transform.getD .ok row = .ok (f row)

theorem Transform.each_of_total {transform : Option Transform} {f : Value → Value}
    (total : Transform.Total transform f) (rows : List Value) :
    Transform.each transform rows = .ok (rows.map f) := by
  cases transform with
  | none =>
    have same : ∀ row, row = f row := fun row => Except.ok.inj (total row)
    rw [List.map_congr_left fun row _ => (same row).symm, List.map_id']
    rfl
  | some change =>
    show rows.mapM change = _
    induction rows with
    | nil => rfl
    | cons row rest ih =>
      rw [List.mapM_cons, show change row = .ok (f row) from total row, ih]
      rfl

/-- The page of a number for a query, with described filters forced on it. -/
def Source.pageAt (s : Source) (q : Query) (mandatory : List FilterSpec)
    (transform : Option Transform) (page : Int) : Except Failure Page :=
  (s.execute { q with page := .whole page } mandatory transform).result

/-- A walk over all pages covers rows: there is one walk, it has as many pages as the rows fill but
at least one, the rows of the pages are the rows in order, and a page with a number beyond the
total of pages is empty and the last. -/
structure Covers (fetch : Int → Except Failure Page) (size : Nat) (rows : List Value)
    (totalPages : Int) (pages : List Page) : Prop where
  walk : Walk fetch 1 pages
  only : ∀ others, Walk fetch 1 others → others = pages
  length : pages.length = max 1 ((rows.length + (size - 1)) / size)
  rows : pages.flatMap Page.rows = rows
  counted : ∀ shown ∈ pages, shown.totalPages = totalPages
  beyond : ∀ page, totalPages < page → ∃ shown, fetch page = .ok shown ∧
    shown.totalPages = totalPages ∧ shown.rows = [] ∧ shown.hasNext = false

/-! ## Pages of a source -/

/-- The selection that a source is asked for by a query, with described filters forced on it. -/
def Query.Selects (mandatory : List FilterSpec) (q : Query) (asked : Selection) : Prop :=
  ∃ forced condition, q.force mandatory = .ok forced ∧ conditionOf forced.filters = .ok condition ∧
    .of condition q.sorts = asked

/-- The filters of a query, with described filters forced on it, make a condition. -/
def Query.Conditioned (mandatory : List FilterSpec) (q : Query) : Prop :=
  ∃ asked, q.Selects mandatory asked

/-- A source that answers every call, and serves and counts rows for a query, of which there are at
most `2^53`. -/
structure Source.Serves (s : Source) (mandatory : List FilterSpec) (q : Query)
    (rows : List Value) : Prop where
  steady : s.Steady
  served : ∀ asked, q.Selects mandatory asked → s.rows asked = rows
  counts : ∀ asked, q.Selects mandatory asked → s.reported asked = rows.length
  few : rows.length ≤ 2 ^ 53

/-- The page of a number among rows, for some total of pages. -/
def Page.among (rows : List Value) (size : Nat) (f : Value → Value) (totalPages page : Int) :
    Page where
  rows := (sliceOf rows ((page - 1) * size) ((page - 1) * size + size)).map f
  total := rows.length
  page := .whole page
  pageSize := .whole size
  totalPages := totalPages
  hasNext := (Number.whole page).less totalPages
  hasPrevious := Number.less 1 (.whole page)

section
variable {s : Source} {q : Query} {mandatory : List FilterSpec} {transform : Option Transform}
  {f : Value → Value} {size : Nat} {rows : List Value} {asked : Selection}

theorem selects_iff : q.Selects mandatory asked ↔ ∃ clauses condition,
    mandatory.mapM FilterSpec.toClause = .ok clauses ∧
      conditionOf (clauses ++ othersOf clauses q.filters) = .ok condition ∧
        .of condition q.sorts = asked := by
  constructor
  · rintro ⟨forced, condition, forcing, made, same⟩
    obtain ⟨clauses, described, rfl⟩ := force_eq_ok_iff.1 forcing
    exact ⟨clauses, condition, described, made, same⟩
  · rintro ⟨clauses, condition, described, made, same⟩
    exact ⟨_, condition, force_of_described described q, made, same⟩

/-- The number of the page has no part in what a source is asked for. -/
theorem selects_page_iff {page : Number} :
    ({ q with page := page } : Query).Selects mandatory asked ↔ q.Selects mandatory asked := by
  rw [selects_iff, selects_iff]

theorem Query.Selects.unique {other : Selection} (h : q.Selects mandatory asked)
    (h' : q.Selects mandatory other) : asked = other := by
  obtain ⟨forced, condition, forcing, made, rfl⟩ := h
  obtain ⟨forced', condition', forcing', made', rfl⟩ := h'
  obtain rfl := Except.ok.inj (forcing.symm.trans forcing')
  rw [Except.ok.inj (made.symm.trans made')]

/-- Only a query whose forced filters make a condition has a page. -/
theorem conditioned_of_pageAt {page : Int} {shown : Page}
    (h : s.pageAt q mandatory transform page = .ok shown) : q.Conditioned mandatory := by
  have executed : s.execute { q with page := .whole page } mandatory transform =
      ⟨(s.execute { q with page := .whole page } mandatory transform).calls, .ok shown⟩ := by
    rw [← h]
    rfl
  obtain ⟨forced, forcing, fetched⟩ := Source.execute_eq_ok_iff.1 executed
  obtain ⟨condition, -, -, -, -, -, made, -⟩ := Source.fetch_eq_ok_iff.1 fetched
  exact ⟨_, selects_page_iff.1 ⟨forced, condition, forcing, made, rfl⟩⟩

/-- A steady source gives a page for integers if the forced filters make a condition, the pages can
be counted and the rows of the slice can be changed. -/
theorem execute_result_eq_ok_iff (steady : s.Steady) {page size : Int}
    (paged : q.page = .whole page) (sized : q.pageSize = .whole size) {shown : Page} :
    (s.execute q mandatory transform).result = .ok shown ↔
      ∃ asked totalPages rows, q.Selects mandatory asked ∧
        pageCount (s.reported asked) (.whole size) = .ok totalPages ∧
        Transform.each transform
          (sliceOf (s.rows asked) ((page - 1) * size) ((page - 1) * size + size)) = .ok rows ∧
        { rows, total := s.reported asked, page := .whole page, pageSize := .whole size, totalPages
          hasNext := (Number.whole page).less (.whole totalPages)
          hasPrevious := Number.less 1 (.whole page) } = shown := by
  cases forcing : q.force mandatory with
  | error failure =>
    rw [Source.execute, forcing]
    simp [Query.Selects, forcing, Traced.of_error_bind]
  | ok forced =>
    obtain ⟨clauses, -, same⟩ := force_eq_ok_iff.1 forcing
    -- Forcing filters leaves the paging and the sorts as they are.
    have forcedPage : forced.page = .whole page := by
      rw [← same]
      exact paged
    have forcedSize : forced.pageSize = .whole size := by
      rw [← same]
      exact sized
    have forcedSorts : forced.sorts = q.sorts := by
      rw [← same]
    rw [Source.execute_of_force forcing, Source.fetch_result_eq_ok_iff steady
      (congrArg Number.toInt? forcedPage) (congrArg Number.toInt? forcedSize), forcedPage,
      forcedSize, forcedSorts]
    simp [Query.Selects, forcing]

/-- What a source gives for a page of the rows that it serves, if the forced filters make a
condition. -/
theorem pageAt_eq (serves : s.Serves mandatory q rows) (sized : q.pageSize = .whole size)
    (conditioned : q.Conditioned mandatory) (total : Transform.Total transform f) {totalPages : Int}
    (counted : pageCount rows.length (.whole size) = .ok totalPages) (page : Int) :
    s.pageAt q mandatory transform page =
      .ok (.among rows size f totalPages page) := by
  obtain ⟨asked, selects⟩ := conditioned
  have rowsOfPage := Transform.each_of_total total
    (sliceOf (s.rows asked) ((page - 1) * size) ((page - 1) * size + size))
  rw [← serves.counts asked selects] at counted
  refine (execute_result_eq_ok_iff (q := { q with page := .whole page }) serves.steady rfl sized).2
    ⟨asked, totalPages, _, selects_page_iff.2 selects, counted, rowsOfPage, ?_⟩
  rw [serves.served asked selects, serves.counts asked selects]
  rfl

theorem among_hasNext (rows : List Value) (size : Nat) (totalPages page : Int) :
    (Page.among rows size f totalPages page).hasNext = decide (page < totalPages) :=
  Number.less_whole page totalPages

theorem among_rows (totalPages : Int) (k : Nat) :
    (Page.among rows size f totalPages (k + 1)).rows =
      ((rows.drop (k * size)).take size).map f := by
  have start : ((k : Int) + 1 - 1) * size = ((k * size : Nat) : Int) := by
    rw [Int.add_sub_cancel, Int.natCast_mul]
  have stop : ((k * size : Nat) : Int) + size = ((k * size + size : Nat) : Int) := rfl
  rw [Page.among, start, stop, sliceOf_nat, Nat.add_sub_cancel_left]

/-- From the page after `k` others a walk gives the rows that are left. -/
theorem exists_walk (positive : 0 < size) {fetch : Int → Except Failure Page} {total : Nat}
    (ceiling : total = (rows.length + (size - 1)) / size)
    (fetches : ∀ page, fetch page = .ok (.among rows size f total page)) {k m : Nat}
    (left : k + m + 1 = max 1 total) :
    ∃ pages, Walk fetch (k + 1) pages ∧ pages.length = m + 1 ∧
      pages.flatMap Page.rows = (rows.drop (k * size)).map f ∧
      ∀ shown ∈ pages, shown.totalPages = total := by
  -- On the pages to come; the rows of a page and the rows after them are the rows that were left.
  induction m generalizing k with
  | zero =>
    have done : ¬ ((k : Int) + 1 < total) := by omega
    have all : rows.length ≤ (k + 1) * size := (ceiling_le_iff positive).1 (by omega)
    have last := (among_hasNext (f := f) rows size total (k + 1)).trans (decide_eq_false done)
    refine ⟨[_], .last (fetches _) last, rfl, ?_, ?_⟩
    · have rest : (rows.drop (k * size)).length ≤ size := by
        rw [List.length_drop]
        rw [Nat.add_mul, Nat.one_mul] at all
        omega
      rw [List.flatMap_singleton, among_rows, List.take_of_length_le rest]
    · intro shown hshown
      rw [List.mem_singleton.1 hshown]
      rfl
  | succ m ih =>
    have more : (k : Int) + 1 < total := by omega
    obtain ⟨pages, walk, length, later, totals⟩ := ih (k := k + 1) (by omega)
    have next := (among_hasNext (f := f) rows size total (k + 1)).trans (decide_eq_true more)
    refine ⟨_ :: pages, .next (fetches _) next walk, ?_, ?_, ?_⟩
    · rw [List.length_cons, length]
    · rw [List.flatMap_cons, among_rows, later, ← List.map_append, Nat.add_mul, Nat.one_mul,
        ← List.drop_drop, List.take_append_drop]
    · intro shown hshown
      rcases List.mem_cons.1 hshown with rfl | later
      · rfl
      · exact totals shown later

/-- A walk over a source covers the rows that it serves, if its pages are counted like integers. -/
theorem exists_covers (serves : s.Serves mandatory q rows) (positive : 0 < size)
    (sized : q.pageSize = .whole size) (conditioned : q.Conditioned mandatory)
    (total : Transform.Total transform f)
    (seen : rows = [] ∨ size < 2 * (rows.length * unitsPerOne)) :
    ∃ totalPages pages,
      Covers (s.pageAt q mandatory transform) size (rows.map f) totalPages pages := by
  obtain ⟨pagesOfRows, ceiling⟩ : ∃ k, k = (rows.length + (size - 1)) / size := ⟨_, rfl⟩
  have counted : pageCount rows.length (.whole size) = .ok pagesOfRows := by
    rw [pageCount_few positive serves.few]
    split
    · rw [ceiling]
    · next unseen =>
      have none : rows = [] := seen.resolve_right unseen
      rw [ceiling, none, List.length_nil, Nat.zero_add, Nat.div_eq_of_lt (by omega)]
      rfl
  have fetches := pageAt_eq serves sized conditioned total counted
  obtain ⟨pages, walk, length, shown, totals⟩ :=
    exists_walk (k := 0) (m := max 1 pagesOfRows - 1) positive ceiling fetches (by omega)
  refine ⟨pagesOfRows, pages, walk, fun others other => other.unique walk, ?_, ?_, totals, ?_⟩
  · rw [length, List.length_map, ← ceiling]
    omega
  · rw [shown, Nat.zero_mul, List.drop_zero]
  · intro page beyond
    obtain ⟨k, rfl⟩ : ∃ k : Nat, page = k + 1 := ⟨(page - 1).toNat, by omega⟩
    have all : rows.length ≤ k * size := (ceiling_le_iff positive).1 (by omega)
    refine ⟨_, fetches _, rfl, ?_, (among_hasNext ..).trans (decide_eq_false (by omega))⟩
    rw [among_rows, List.drop_eq_nil_of_le all, List.take_nil, List.map_nil]

/-- A size that counts no pages although there are rows shows rows on a page beyond the total. -/
theorem not_covers_of_unseen (serves : s.Serves mandatory q rows) (positive : 0 < size)
    (sized : q.pageSize = .whole size) (conditioned : q.Conditioned mandatory)
    (total : Transform.Total transform f) (present : rows ≠ [])
    (unseen : ¬ size < 2 * (rows.length * unitsPerOne)) (totalPages : Int) (pages : List Page) :
    ¬ Covers (s.pageAt q mandatory transform) size (rows.map f) totalPages pages := by
  intro covers
  have counted : pageCount rows.length (.whole size) = .ok 0 := by
    rw [pageCount_few positive serves.few, if_neg unseen]
  have fetches := pageAt_eq serves sized conditioned total counted
  -- The first page says that there are no pages, and has rows.
  obtain ⟨first, rest, fetched, rfl⟩ := covers.walk.exists_first
  obtain rfl := Except.ok.inj ((fetches 1).symm.trans fetched)
  have none : totalPages = 0 := (covers.counted _ List.mem_cons_self).symm
  obtain ⟨shown, again, -, empty, -⟩ := covers.beyond 1 (by omega)
  obtain rfl := Except.ok.inj ((fetches 1).symm.trans again)
  have shows : (Page.among rows size f 0 1).rows =
      ((rows.drop (0 * size)).take size).map f := among_rows 0 0
  rw [shows, Nat.zero_mul, List.drop_zero, List.map_eq_nil_iff, List.take_eq_nil_iff] at empty
  rcases empty with zero | none
  · omega
  · exact present none

/-- Turning pages covers every row that a source serves once exactly if the forced filters make a
condition, and there are no rows or the page size is less than the number of rows in half units:
beyond, the quotient is rounded to zero, and a source with rows has no pages. -/
theorem covers_iff (serves : s.Serves mandatory q rows) (positive : 0 < size)
    (sized : q.pageSize = .whole size) (total : Transform.Total transform f) :
    (∃ totalPages pages,
      Covers (s.pageAt q mandatory transform) size (rows.map f) totalPages pages) ↔
      q.Conditioned mandatory ∧ (rows = [] ∨ size < 2 * (rows.length * unitsPerOne)) := by
  constructor
  · rintro ⟨totalPages, pages, covers⟩
    obtain ⟨first, rest, fetched, -⟩ := covers.walk.exists_first
    have conditioned := conditioned_of_pageAt fetched
    refine ⟨conditioned, ?_⟩
    by_cases none : rows = []
    · exact .inl none
    · right
      refine Decidable.byContradiction fun unseen => ?_
      exact not_covers_of_unseen serves positive sized conditioned total none unseen _ _ covers
  · rintro ⟨conditioned, seen⟩
    exact exists_covers serves positive sized conditioned total seen

end

/-- Rows that come in another order if they are asked for by price. -/
def pricedRows (asked : Selection) : List Value :=
  if asked.columns = ["-price".toList] then [.int 3, .int 2, .int 1]
  else [.int 1, .int 2, .int 3]

/-- Three rows on pages of two, each row with a name. -/
theorem covers_three :
    let s : Source := { rows := pricedRows }
    let q : Query := { pageSize := .whole (2 : Nat), sorts := [⟨"price", .descending⟩] }
    let rows : List Value := [.int 3, .int 2, .int 1]
    ∃ totalPages pages, Covers (s.pageAt q [] (some (Transform.wrap "row"))) 2
      (rows.map fun row => .dict [("row", row)]) totalPages pages := by
  intro s q rows
  have selects : q.Selects [] (.of .always q.sorts) := ⟨q, .always, rfl, rfl, rfl⟩
  have served : s.rows (.of .always q.sorts) = rows := rfl
  have serves : s.Serves [] q rows := by
    refine ⟨fun _ _ => rfl, fun asked h => ?_, fun asked h => ?_, by decide⟩
    · rw [← selects.unique h, served]
    · rw [← selects.unique h]
      rfl
  have seen : 2 < 2 * (rows.length * unitsPerOne) := by decide +kernel
  exact (covers_iff serves (by decide) rfl fun _ => rfl).2 ⟨⟨_, selects⟩, .inr seen⟩

/-- A page size that makes the quotient of one row less than half a unit. -/
def hugeSize : Nat := Nat.pow 10 400

/-- With that size the only row is on a page beyond the total of no pages. -/
theorem covers_fails_huge :
    let s : Source := { rows := fun _ => [.int 1] }
    let q : Query := { pageSize := .whole hugeSize }
    let rows : List Value := [.int 1]
    s.Serves [] q rows ∧ 0 < hugeSize ∧ q.Conditioned [] ∧ Transform.Total none id ∧
      ¬ ∃ totalPages pages,
        Covers (s.pageAt q [] none) hugeSize (rows.map id) totalPages pages := by
  intro s q rows
  have serves : s.Serves [] q rows := ⟨fun _ _ => rfl, fun _ _ => rfl, fun _ _ => rfl, by decide⟩
  have positive : 0 < hugeSize := by decide +kernel
  have conditioned : q.Conditioned [] := ⟨_, q, .always, rfl, rfl, rfl⟩
  have unseen : ¬ hugeSize < 2 * (rows.length * unitsPerOne) := by decide +kernel
  refine ⟨serves, positive, conditioned, fun _ => rfl, ?_⟩
  rintro ⟨totalPages, pages, covers⟩
  exact not_covers_of_unseen serves positive rfl conditioned (fun _ => rfl) (by simp [rows]) unseen
    totalPages pages covers

end Listing
