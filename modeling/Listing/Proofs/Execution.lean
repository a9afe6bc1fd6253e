import Listing.Proofs.Rounding
import Listing.Source

/-!
# Fetching a page

What a source is asked, and what comes of it:

* **calls in order**: a computation in two parts makes the calls of the first and then those of
  the second (`Traced.bind_eq_ok_iff`);
* **page counts**: for a positive size there is a count exactly below the limit of rounding
  (`pageCount_cases`), and up to `2^53` rows it is the ceiling of the quotient unless the quotient
  is lost to zero (`pageCount_few`);
* **success**: a page is fetched exactly if every part of the work can be done, and then the calls
  are those of `Source.callsFor` (`fetch_eq_ok_iff`);
* **steadiness**: on a source that answers every call the conditions on the source fall away
  (`fetch_of_steady`).
-/

namespace Listing

/-! ## Calls in order -/

namespace Traced
variable {κ ι α β : Type} {calls : List κ}

/-- A computation in two parts succeeds if both do, with the calls of both. -/
theorem bind_eq_ok_iff {x : Traced κ α} {f : α → Traced κ β} {b : β} :
    (x >>= f) = ⟨calls, .ok b⟩ ↔
      ∃ a first rest, x = ⟨first, .ok a⟩ ∧ f a = ⟨rest, .ok b⟩ ∧ first ++ rest = calls := by
  obtain ⟨made, result⟩ := x
  cases result with
  | error failure =>
    show (⟨made, .error failure⟩ : Traced κ β) = _ ↔ _
    simp
  | ok a =>
    show (⟨made ++ (f a).calls, (f a).result⟩ : Traced κ β) = _ ↔ _
    constructor
    · intro h
      injection h with same result
      exact ⟨a, made, (f a).calls, rfl, by rw [← result], same⟩
    · rintro ⟨a', first, rest, first_eq, rest_eq, rfl⟩
      injection first_eq with same result
      obtain rfl := Except.ok.inj result
      rw [rest_eq, same]

theorem of_eq_ok_iff {result : Except Failure α} {a : α} :
    (of result : Traced κ α) = ⟨calls, .ok a⟩ ↔ result = .ok a ∧ calls = [] := by
  rw [of, mk.injEq, and_comm, eq_comm (a := [])]

theorem ok_bind (a : α) (f : α → Traced κ β) :
    ((⟨calls, .ok a⟩ : Traced κ α) >>= f) = ⟨calls ++ (f a).calls, (f a).result⟩ :=
  rfl

theorem of_ok_bind (a : α) (f : α → Traced κ β) : ((of (.ok a) : Traced κ α) >>= f) = f a :=
  rfl

theorem of_error_bind (failure : Failure) (f : α → Traced κ β) :
    ((of (.error failure) : Traced κ α) >>= f) = ⟨[], .error failure⟩ :=
  rfl

theorem of_bind_eq_ok_iff {result : Except Failure α} {f : α → Traced κ β} {b : β} :
    (of result >>= f) = ⟨calls, .ok b⟩ ↔ ∃ a, result = .ok a ∧ f a = ⟨calls, .ok b⟩ := by
  cases result with
  | error failure =>
    show (⟨[], .error failure⟩ : Traced κ β) = _ ↔ _
    simp
  | ok a =>
    show f a = _ ↔ _
    simp

theorem pure_eq_ok_iff {a b : α} :
    (pure a : Traced κ α) = ⟨calls, .ok b⟩ ↔ a = b ∧ calls = [] := by
  show of (.ok a) = _ ↔ _
  rw [of_eq_ok_iff, Except.ok.injEq]

/-- It fails with the first failure of its parts. -/
theorem bind_eq_error_iff {x : Traced κ α} {f : α → Traced κ β} {failure : Failure} :
    (x >>= f) = ⟨calls, .error failure⟩ ↔ x = ⟨calls, .error failure⟩ ∨
      ∃ a first rest,
        x = ⟨first, .ok a⟩ ∧ f a = ⟨rest, .error failure⟩ ∧ first ++ rest = calls := by
  obtain ⟨made, result⟩ := x
  cases result with
  | error other =>
    show (⟨made, .error other⟩ : Traced κ β) = _ ↔ _
    simp
  | ok a =>
    show (⟨made ++ (f a).calls, (f a).result⟩ : Traced κ β) = _ ↔ _
    constructor
    · intro h
      injection h with same result
      exact .inr ⟨a, made, (f a).calls, rfl, by rw [← result], same⟩
    · rintro (fails | ⟨a', first, rest, first_eq, rest_eq, rfl⟩)
      · cases fails
      · injection first_eq with same result
        obtain rfl := Except.ok.inj result
        rw [rest_eq, same]

theorem pure_ne_error (a : α) (failure : Failure) :
    (pure a : Traced κ α) ≠ ⟨calls, .error failure⟩ := by
  intro h
  cases h

theorem relabel_eq_iff {f : ι → κ} {x : Traced ι α} {result : Except Failure α} :
    x.relabel f = ⟨calls, result⟩ ↔ ∃ made, x = ⟨made, result⟩ ∧ made.map f = calls := by
  obtain ⟨made, own⟩ := x
  rw [relabel, mk.injEq]
  simp [and_assoc, and_comm]

end Traced

/-! ## Integers -/

section
variable {a b : Number} {i j : Int}

/-- Arithmetic on numbers that count as integers is that of the integers. -/
theorem Number.combine_of_toInt (ha : a.toInt? = some i) (hb : b.toInt? = some j)
    (exact : Int → Int → Int) (rounded : Binary64 → Binary64 → Binary64) :
    combine? exact rounded a b = some (.whole (exact i j)) := by
  rw [combine?, ha, hb]

theorem Number.less_of_toInt (ha : a.toInt? = some i) (hb : b.toInt? = some j) :
    a.less b = decide (i < j) := by
  have position {n : Number} {k : Int} (h : n.toInt? = some k) :
      n.position = (Number.whole k).position := by
    cases n with
    | flag b => cases h; rfl
    | whole m => cases h; rfl
    | real x => cases h
  rw [← Number.less_whole, Number.less, position ha, position hb]
  rfl

theorem Query.offset_of_toInt {q : Query} (paged : q.page.toInt? = some i)
    (sized : q.pageSize.toInt? = some j) : q.offset = .ok (.whole ((i - 1) * j)) := by
  have before : q.page.sub? 1 = some (.whole (i - 1)) :=
    Number.combine_of_toInt paged (Number.toInt?_whole 1) _ _
  have product : (Number.whole (i - 1)).mul? q.pageSize = some (.whole ((i - 1) * j)) :=
    Number.combine_of_toInt (Number.toInt?_whole _) sized _ _
  rw [Query.offset, before, Option.bind_some, product]
  rfl

theorem pageCount_of_toInt (sized : a.toInt? = some i) (total : Int) :
    pageCount total a = pageCount total (.whole i) := by
  cases a with
  | flag b => cases sized; rfl
  | whole k => cases sized; rfl
  | real x => cases sized

end

/-! ## Page counts -/

/-- A finite binary number has a ceiling. -/
theorem exists_leastAbove (negative : Bool) (m : Magnitude) :
    ∃ k, leastAbove (.finite negative m) = .ok k := by
  cases negative with
  | false => exact ⟨_, rfl⟩
  | true => exact ⟨_, rfl⟩

section
variable {size : Int}

theorem wholeQuotient_of_lt {total : Int} (positive : 0 < size)
    (few : total.natAbs < roundingLimit * size.natAbs) :
    ∃ h : Representable (roundedUnits total.natAbs size.natAbs),
      wholeQuotient total size = .ok (.finite ((total < 0) != (size < 0)) ⟨_, h⟩) := by
  have nonzero : ¬ size = 0 := by omega
  have representable := (representable_roundedUnits_iff (by omega)).2 few
  refine ⟨representable, ?_⟩
  rw [wholeQuotient, if_neg nonzero, Binary64.ofRatio, dif_pos representable]

theorem wholeQuotient_of_le {total : Int} (positive : 0 < size)
    (many : roundingLimit * size.natAbs ≤ total.natAbs) :
    wholeQuotient total size = .error .quotientTooLarge := by
  have nonzero : ¬ size = 0 := by omega
  have beyond : ¬ Representable (roundedUnits total.natAbs size.natAbs) := fun h =>
    Nat.not_lt.2 many ((representable_roundedUnits_iff (by omega)).1 h)
  rw [wholeQuotient, if_neg nonzero, Binary64.ofRatio, dif_neg beyond]

theorem roundingLimit_pos : 0 < roundingLimit := by
  decide +kernel

/-- A positive size counts pages exactly if the rounded quotient is within the format; counting
fails for no other reason. -/
theorem pageCount_cases (total : Int) (positive : 0 < size) :
    (total.natAbs < roundingLimit * size.natAbs ∧ ∃ k, pageCount total (.whole size) = .ok k) ∨
    (roundingLimit * size.natAbs ≤ total.natAbs ∧
      pageCount total (.whole size) = .error .quotientTooLarge) := by
  by_cases none : total = 0
  · left
    rw [none]
    exact ⟨Nat.mul_pos roundingLimit_pos (by omega), 0, rfl⟩
  · rw [pageCount, if_neg none]
    rcases Nat.lt_or_ge total.natAbs (roundingLimit * size.natAbs) with few | many
    · left
      obtain ⟨representable, quotient⟩ := wholeQuotient_of_lt positive few
      obtain ⟨k, ceiling⟩ := exists_leastAbove ((total < 0) != (size < 0)) ⟨_, representable⟩
      refine ⟨few, k, ?_⟩
      rw [pagesFilled, quotient]
      exact ceiling
    · right
      refine ⟨many, ?_⟩
      rw [pagesFilled, wholeQuotient_of_le positive many]
      rfl

end

/-- A quotient that is rounded to zero has the ceiling zero. -/
theorem ceil_of_lost {total size : Nat} (positive : 0 < size)
    (unseen : ¬ size < 2 * (total * unitsPerOne)) :
    (roundedUnits total size + (unitsPerOne - 1)) / unitsPerOne = 0 := by
  have lost : roundedUnits total size = 0 :=
    Nat.eq_zero_of_not_pos fun h => unseen ((roundedUnits_pos_iff positive).1 h)
  rw [lost, Nat.zero_add, Nat.div_eq_of_lt (Nat.sub_lt unitsPerOne_pos Nat.one_pos)]

/-- Below the limit of rounding, a positive size counts as many pages as the ceiling of the rounded
quotient. -/
theorem pageCount_of_lt {total size : Nat} (positive : 0 < size)
    (few : total < roundingLimit * size) :
    pageCount total (.whole size) =
      .ok ((roundedUnits total size + (unitsPerOne - 1)) / unitsPerOne : Nat) := by
  by_cases none : total = 0
  · rw [none, ceil_of_lost positive (by omega)]
    rfl
  · obtain ⟨_, quotient⟩ := wholeQuotient_of_lt (Int.natCast_pos.2 positive)
      (show (total : Int).natAbs < roundingLimit * (size : Int).natAbs from few)
    have signs : (decide ((total : Int) < 0) != decide ((size : Int) < 0)) = false := by
      rw [decide_eq_false (by omega), decide_eq_false (by omega)]
      rfl
    rw [pageCount, if_neg (Int.natCast_ne_zero.2 none), pagesFilled, quotient, signs]
    rfl

/-- Up to `2^53` rows are counted in pages as integers count them, but for sizes so large that the
quotient is rounded to zero. -/
theorem pageCount_few {total size : Nat} (positive : 0 < size) (few : total ≤ 2 ^ 53) :
    pageCount total (.whole size) =
      .ok (if size < 2 * (total * unitsPerOne) then ((total + (size - 1)) / size : Nat)
        else 0) := by
  have limit : 2 ^ 53 < roundingLimit := by decide +kernel
  have within : total < roundingLimit * size :=
    Nat.lt_of_lt_of_le (Nat.lt_of_le_of_lt few limit) (Nat.le_mul_of_pos_right _ positive)
  rw [pageCount_of_lt positive within]
  split
  · next seen => rw [ceil_roundedUnits positive few seen]
  · next unseen =>
    rw [ceil_of_lost positive unseen]
    rfl

/-! ## Calls on a source -/

namespace Source
variable {s : Source} {q : Query} {transform : Option Transform} {calls : List Call}

/-- The call for an order, which is only made if there are sorts. -/
def orderCalls (sorts : List SortClause) : List Call :=
  if sorts.isEmpty then [] else [.orderBy (orderingOf sorts)]

/-- The calls for a page: all rows, those of a condition, in the order of the sorts, then their
count and the slice. -/
def callsFor (s : Source) (condition : Condition) (sorts : List SortClause) (start stop : Number) :
    List Call :=
  s.opening :: .filter condition :: (orderCalls sorts ++ [.count, .slice start stop])

theorem opening_ne_slice (s : Source) (start stop : Number) :
    Call.slice start stop ≠ s.opening := by
  unfold opening
  cases s.managed <;> simp

theorem slice_not_mem_orderCalls (sorts : List SortClause) (start stop : Number) :
    Call.slice start stop ∉ orderCalls sorts := by
  unfold orderCalls
  split <;> simp

/-- One slice is asked for. -/
theorem slice_mem_callsFor_iff {condition : Condition} {sorts : List SortClause}
    {start stop first last : Number} :
    .slice first last ∈ s.callsFor condition sorts start stop ↔ first = start ∧ last = stop := by
  simp [callsFor, opening_ne_slice, slice_not_mem_orderCalls]

/-- The source answers the calls for a page, each with what it was asked for before. -/
structure Answers (s : Source) (condition : Condition) (sorts : List SortClause)
    (start stop : Number) : Prop where
  opening : s.fails {} s.opening = none
  filter : s.fails {} (.filter condition) = none
  order : ∀ c ∈ orderCalls sorts, s.fails (.of condition []) c = none
  count : s.fails (.of condition sorts) .count = none
  slice : s.fails (.of condition sorts) (.slice start stop) = none

theorem call_eq_ok_iff {asked : Selection} {c : Call} {u : Unit} :
    s.call asked c = ⟨calls, .ok u⟩ ↔ s.fails asked c = none ∧ calls = [c] := by
  unfold call
  cases s.fails asked c with
  | none => simp [eq_comm]
  | some failure => simp

theorem call_bind_eq_ok_iff {α : Type} {asked : Selection} {c : Call} {f : Unit → Traced Call α}
    {a : α} : (s.call asked c >>= f) = ⟨calls, .ok a⟩ ↔
      s.fails asked c = none ∧ ∃ rest, f () = ⟨rest, .ok a⟩ ∧ c :: rest = calls := by
  simp only [Traced.bind_eq_ok_iff, call_eq_ok_iff]
  constructor
  · rintro ⟨⟨⟩, _, rest, ⟨answers, rfl⟩, rest_eq, rfl⟩
    exact ⟨answers, rest, rest_eq, rfl⟩
  · rintro ⟨answers, rest, rest_eq, rfl⟩
    exact ⟨(), _, rest, ⟨answers, rfl⟩, rest_eq, rfl⟩

theorem order_bind_eq_ok_iff {α : Type} {condition : Condition} {sorts : List SortClause}
    {f : Unit → Traced Call α} {a : α} :
    (s.order condition sorts >>= f) = ⟨calls, .ok a⟩ ↔
      (∀ c ∈ orderCalls sorts, s.fails (.of condition []) c = none) ∧
        ∃ rest, f () = ⟨rest, .ok a⟩ ∧ orderCalls sorts ++ rest = calls := by
  unfold order orderCalls
  cases sorts.isEmpty with
  | true =>
    show f () = _ ↔ _
    simp
  | false => simp [call_bind_eq_ok_iff]

/-- A page is fetched exactly if the filters make a condition, the pages can be counted, the bounds
of the slice are integers, every row can be changed, and the source answers every call. -/
theorem fetch_eq_ok_iff {page : Page} :
    s.fetch q transform = ⟨calls, .ok page⟩ ↔
      ∃ condition totalPages start stop rows shown,
        conditionOf q.filters = .ok condition ∧
        pageCount (s.reported (.of condition q.sorts)) q.pageSize = .ok totalPages ∧
        q.offset = .ok start ∧ Failure.ofArithmetic (start.add? q.pageSize) = .ok stop ∧
        s.between (.of condition q.sorts) start stop = .ok rows ∧
        Transform.each transform rows = .ok shown ∧
        calls = s.callsFor condition q.sorts start stop ∧
        s.Answers condition q.sorts start stop ∧
        page = {
          rows := shown, total := s.reported (.of condition q.sorts), page := q.page
          pageSize := q.pageSize, totalPages
          hasNext := q.page.less totalPages, hasPrevious := Number.less 1 q.page } := by
  unfold fetch
  simp only [call_bind_eq_ok_iff, order_bind_eq_ok_iff, Traced.of_bind_eq_ok_iff,
    Traced.pure_eq_ok_iff]
  constructor
  · rintro ⟨opens, _, ⟨condition, made, filters, _, ⟨orders, _, ⟨counts, _, ⟨totalPages, counted,
      start, first, stop, last, slices, _, ⟨rows, cut, shown, changed, rfl, rfl⟩, rfl⟩, rfl⟩, rfl⟩,
      rfl⟩, rfl⟩
    exact ⟨condition, totalPages, start, stop, rows, shown, made, counted, first, last, cut,
      changed, rfl, ⟨opens, filters, orders, counts, slices⟩, rfl⟩
  · rintro ⟨condition, totalPages, start, stop, rows, shown, made, counted, first, last, cut,
      changed, rfl, answers, rfl⟩
    obtain ⟨opens, filters, orders, counts, slices⟩ := answers
    exact ⟨opens, _, ⟨condition, made, filters, _, ⟨orders, _, ⟨counts, _, ⟨totalPages, counted,
      start, first, stop, last, slices, _, ⟨rows, cut, shown, changed, rfl, rfl⟩, rfl⟩, rfl⟩, rfl⟩,
      rfl⟩, rfl⟩

/-! ## Steady sources -/

/-- A source that answers every call, whatever it was asked for. -/
def Steady (s : Source) : Prop :=
  ∀ asked c, s.fails asked c = none

variable {page size : Int} {condition : Condition} {totalPages : Int} {failure : Failure}

theorem call_of_steady (steady : s.Steady) (asked : Selection) (c : Call) :
    s.call asked c = ⟨[c], .ok ()⟩ := by
  rw [call, steady asked c]

theorem order_of_steady (steady : s.Steady) (condition : Condition) (sorts : List SortClause) :
    s.order condition sorts = ⟨orderCalls sorts, .ok ()⟩ := by
  unfold order orderCalls
  cases sorts.isEmpty with
  | true => rfl
  | false => exact call_of_steady steady _ _

/-- The page that a steady source gives, with integers for the paging: the rows of the slice, each
changed. -/
theorem fetch_of_steady (steady : s.Steady) (paged : q.page.toInt? = some page)
    (sized : q.pageSize.toInt? = some size) (made : conditionOf q.filters = .ok condition)
    (counted : pageCount (s.reported (.of condition q.sorts)) q.pageSize = .ok totalPages) :
    s.fetch q transform =
      ⟨s.callsFor condition q.sorts (.whole ((page - 1) * size))
          (.whole ((page - 1) * size + size)),
        (Transform.each transform (sliceOf (s.rows (.of condition q.sorts)) ((page - 1) * size)
          ((page - 1) * size + size))).map fun rows => {
            rows, total := s.reported (.of condition q.sorts), page := q.page
            pageSize := q.pageSize, totalPages
            hasNext := q.page.less totalPages, hasPrevious := Number.less 1 q.page }⟩ := by
  have last : Failure.ofArithmetic ((Number.whole ((page - 1) * size)).add? q.pageSize) =
      .ok (.whole ((page - 1) * size + size)) := by
    rw [Number.add?, Number.combine_of_toInt (Number.toInt?_whole _) sized]
    rfl
  have cut (asked : Selection) :
      s.between asked (.whole ((page - 1) * size)) (.whole ((page - 1) * size + size)) =
        .ok (sliceOf (s.rows asked) ((page - 1) * size) ((page - 1) * size + size)) := rfl
  unfold fetch
  simp only [call_of_steady steady, order_of_steady steady, made, counted,
    Query.offset_of_toInt paged sized, last, cut, Traced.ok_bind, Traced.of_ok_bind]
  cases Transform.each transform
    (sliceOf (s.rows (.of condition q.sorts)) ((page - 1) * size) ((page - 1) * size + size)) with
  | error failure => rfl
  | ok rows => rfl

/-- Filters without a condition stop the work after the first call. -/
theorem fetch_unconditioned (steady : s.Steady) (fails : conditionOf q.filters = .error failure) :
    s.fetch q transform = ⟨[s.opening], .error failure⟩ := by
  unfold fetch
  simp only [call_of_steady steady, fails, Traced.ok_bind, Traced.of_error_bind, List.append_nil]

/-- Pages that cannot be counted stop the work after the count of the rows. -/
theorem fetch_uncounted (steady : s.Steady) (made : conditionOf q.filters = .ok condition)
    (fails : pageCount (s.reported (.of condition q.sorts)) q.pageSize = .error failure) :
    s.fetch q transform =
      ⟨s.opening :: .filter condition :: (orderCalls q.sorts ++ [.count]), .error failure⟩ := by
  unfold fetch
  simp only [call_of_steady steady, order_of_steady steady, made, fails, Traced.ok_bind,
    Traced.of_ok_bind, Traced.of_error_bind, List.singleton_append]

/-- A steady source gives a page for integers if the filters make a condition, the pages can be
counted and the rows of the slice can be changed. -/
theorem fetch_result_eq_ok_iff (steady : s.Steady) (paged : q.page.toInt? = some page)
    (sized : q.pageSize.toInt? = some size) {shown : Page} :
    (s.fetch q transform).result = .ok shown ↔
      ∃ condition totalPages rows, conditionOf q.filters = .ok condition ∧
        pageCount (s.reported (.of condition q.sorts)) q.pageSize = .ok totalPages ∧
        Transform.each transform (sliceOf (s.rows (.of condition q.sorts)) ((page - 1) * size)
          ((page - 1) * size + size)) = .ok rows ∧
        { rows, total := s.reported (.of condition q.sorts), page := q.page
          pageSize := q.pageSize, totalPages
          hasNext := q.page.less totalPages, hasPrevious := Number.less 1 q.page } = shown := by
  cases made : conditionOf q.filters with
  | error failure =>
    rw [fetch_unconditioned steady made]
    simp
  | ok condition =>
    cases counted : pageCount (s.reported (.of condition q.sorts)) q.pageSize with
    | error failure =>
      rw [fetch_uncounted steady made counted]
      simp [counted]
    | ok totalPages =>
      rw [fetch_of_steady steady paged sized made counted]
      simp [map_eq_ok_iff, counted]

/-! ## Forced filters -/

theorem execute_of_force {mandatory : List FilterSpec} {forced : Query}
    (h : q.force mandatory = .ok forced) :
    s.execute q mandatory transform = s.fetch forced transform := by
  rw [execute, h]
  rfl

theorem execute_eq_ok_iff {mandatory : List FilterSpec} {page : Page} :
    s.execute q mandatory transform = ⟨calls, .ok page⟩ ↔
      ∃ forced, q.force mandatory = .ok forced ∧ s.fetch forced transform = ⟨calls, .ok page⟩ :=
  Traced.of_bind_eq_ok_iff

end Source

end Listing
