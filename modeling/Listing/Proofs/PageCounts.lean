import Listing.Proofs.Paging

/-!
# Exact page counts

A page says how many pages there are, and by that whether there is a next one. The number of pages
is the ceiling of a quotient that was rounded to the binary numbers, while the slice of a page is
cut with integers, so that for large totals the two can differ.

* **the count**: it is the exact ceiling for the totals and sizes that are `CountedExactly`, and for
  no others (`pageCount_exact_iff`); up to `2^53` it is, unless the quotient is rounded to zero
  (`countedExactly_few`);
* **the page**: what a page says of its place is exact for the same totals and sizes, if there is a
  page at all (`execute_exact_iff`).
-/

namespace Listing

/-! ## The count -/

/-- The totals and sizes whose pages are counted as integers count them. The quotient is within the
format and its ceiling can be held in it; and a quotient that is no integer, if it is below `2^53`,
is not rounded back to its whole part. -/
structure CountedExactly (total size : Nat) : Prop where
  within : total < roundingLimit * size
  held : OnGrid ((total + (size - 1)) / size)
  reached : size ∣ total ∨ 2 ^ 53 ≤ total / size ∨ ¬ DrawnBack unitsPerOne total size

section
variable {total size : Nat}

theorem ceil_natCast_div (positive : 0 < size) :
    ⌈(total : ℚ) / size⌉ = ((total + (size - 1)) / size : Nat) := by
  rw [← Int.natCast_ceil_eq_ceil (by positivity : (0 : ℚ) ≤ total / size), Int.ofNat_inj]
  apply eq_of_forall_ge_iff
  intro k
  rw [Nat.ceil_le, div_le_iff₀ (Nat.cast_pos.2 positive), ceiling_le_iff positive]
  norm_cast

/-- The pages of a total are counted exactly if the total and the size are of that kind, and
otherwise the count is another one or fails. -/
theorem pageCount_exact_iff (positive : 0 < size) :
    pageCount total (.whole size) = .ok ⌈(total : ℚ) / size⌉ ↔ CountedExactly total size := by
  rw [ceil_natCast_div positive]
  rcases Nat.lt_or_ge total (roundingLimit * size) with few | many
  · rw [pageCount_of_lt positive few, Except.ok.injEq, Int.ofNat_inj,
      ceil_roundedUnits_iff positive]
    exact ⟨fun ⟨held, reached⟩ => ⟨few, held, reached⟩, fun h => ⟨h.held, h.reached⟩⟩
  · rcases pageCount_cases total (Int.natCast_pos.2 positive) with ⟨few, -⟩ | ⟨-, fails⟩
    · exact absurd few (Nat.not_lt.2 many)
    · rw [fails]
      exact iff_of_false nofun fun h => Nat.not_lt.2 many h.within

/-- Up to `2^53` the only totals that are not counted exactly are those whose quotient is rounded to
zero. -/
theorem countedExactly_few (positive : 0 < size) (few : total ≤ 2 ^ 53) :
    CountedExactly total size ↔ total = 0 ∨ size < 2 * (total * unitsPerOne) := by
  rw [← pageCount_exact_iff positive, ceil_natCast_div positive, pageCount_few positive few]
  split
  · next seen => exact iff_of_true rfl (.inr seen)
  · next unseen =>
    have none : (total + (size - 1)) / size = 0 ↔ total = 0 := by
      rw [← Nat.le_zero, ceiling_le_iff positive, Nat.zero_mul, Nat.le_zero]
    rw [or_iff_left unseen, ← none, Except.ok.injEq]
    omega

end

/-! ## The page -/

/-- What a page says of its place among the pages of a total is what the integers say. -/
structure Page.Exact (shown : Page) (total size : Nat) (page : Int) : Prop where
  totalPages : shown.totalPages = ⌈(total : ℚ) / size⌉
  hasNext : shown.hasNext = true ↔ page * size < total
  hasPrevious : shown.hasPrevious = true ↔ 1 < page

section
variable {s : Source} {q : Query} {mandatory : List FilterSpec} {transform : Option Transform}

/-- What a page says of its place is exact if there is a page and its pages are counted exactly, and
only then. -/
theorem execute_exact_iff (steady : s.Steady) {total size : Nat}
    (reported : ∀ asked, q.Selects mandatory asked → s.reported asked = total) {page : Int}
    (paged : q.page = .whole page) (sized : q.pageSize = .whole size) (positive : 0 < size) :
    (∃ shown, (s.execute q mandatory transform).result = .ok shown ∧
      shown.Exact total size page) ↔
      (∃ asked rows, q.Selects mandatory asked ∧ Transform.each transform
        (sliceOf (s.rows asked) ((page - 1) * size) ((page - 1) * size + size)) = .ok rows) ∧
      CountedExactly total size := by
  simp only [execute_result_eq_ok_iff steady paged sized]
  have next : page < ⌈(total : ℚ) / size⌉ ↔ page * size < total := by
    rw [Int.lt_ceil, lt_div_iff₀ (Nat.cast_pos.2 positive)]
    norm_cast
  constructor
  · rintro ⟨shown, ⟨asked, totalPages, rows, selects, counted, changed, rfl⟩, exact⟩
    refine ⟨⟨asked, rows, selects, changed⟩, (pageCount_exact_iff positive).1 ?_⟩
    rw [← reported asked selects, counted]
    exact congrArg Except.ok exact.totalPages
  · rintro ⟨⟨asked, rows, selects, changed⟩, exactly⟩
    have counted := (pageCount_exact_iff positive).2 exactly
    rw [← reported asked selects] at counted
    refine ⟨_, ⟨asked, _, rows, selects, counted, changed, rfl⟩, rfl, ?_, ?_⟩
    · rw [Number.less_whole, decide_eq_true_iff, next]
    · show (Number.whole 1).less (.whole page) = true ↔ _
      rw [Number.less_whole, decide_eq_true_iff]

end

/-- A total beyond `2^53` that is counted exactly: the page before the last is not the last. -/
theorem execute_exact_large :
    let s : Source :=
      { rows := fun _ => [.int 1], total := fun _ => some (3 * 2 ^ 60 - 1 : Nat) }
    let q : Query := { page := .whole (2 ^ 60 - 1), pageSize := .whole (3 : Nat) }
    ∃ shown, (s.execute q [] (some (Transform.wrap "row"))).result = .ok shown ∧
      shown.Exact (3 * 2 ^ 60 - 1) 3 (2 ^ 60 - 1) := by
  intro s q
  have selects : q.Selects [] (.of .always []) := ⟨q, .always, rfl, rfl, rfl⟩
  have rows : Transform.each (some (Transform.wrap "row")) (sliceOf (s.rows (.of .always []))
      ((2 ^ 60 - 1 - 1) * (3 : Nat)) ((2 ^ 60 - 1 - 1) * (3 : Nat) + (3 : Nat))) = .ok [] := rfl
  have exactly : CountedExactly (3 * 2 ^ 60 - 1) 3 := by
    refine ⟨by decide +kernel, ?_, .inr (.inl (by decide))⟩
    show stepAt _ ∣ _
    decide +kernel
  exact (execute_exact_iff (fun _ _ => rfl) (fun _ _ => rfl) rfl rfl (by decide)).2
    ⟨⟨_, [], selects, rows⟩, exactly⟩

/-- The total `2^53 + 1` is rounded when it is counted in pages of one row, so that the page before
the last says that it is the last. -/
theorem execute_exact_fails_odd :
    let s : Source := { rows := fun _ => [], total := fun _ => some (2 ^ 53 + 1 : Nat) }
    let q : Query := { page := .whole (2 ^ 53), pageSize := .whole (1 : Nat) }
    ∃ shown, (s.execute q [] none).result = .ok shown ∧ shown.totalPages = 2 ^ 53 ∧
      shown.hasNext = false ∧ ¬ shown.Exact (2 ^ 53 + 1) 1 (2 ^ 53) := by
  intro s q
  have selects : q.Selects [] (.of .always []) := ⟨q, .always, rfl, rfl, rfl⟩
  have counted : pageCount (s.reported (.of .always [])) (.whole (1 : Nat)) = .ok (2 ^ 53) := by
    decide +kernel
  have last : (Number.whole (2 ^ 53)).less (.whole (2 ^ 53)) = false :=
    (Number.less_whole _ _).trans (decide_eq_false (Int.lt_irrefl _))
  have rows : Transform.each none (sliceOf (s.rows (.of .always [])) ((2 ^ 53 - 1) * (1 : Nat))
      ((2 ^ 53 - 1) * (1 : Nat) + (1 : Nat))) = .ok [] := rfl
  have shows := (execute_result_eq_ok_iff (s := s) (q := q) (fun _ _ => rfl) rfl rfl).2
    ⟨_, 2 ^ 53, [], selects, counted, rows, rfl⟩
  rw [last] at shows
  refine ⟨_, shows, rfl, rfl, fun exact => ?_⟩
  exact Bool.false_ne_true (exact.hasNext.2 (by decide))

end Listing
