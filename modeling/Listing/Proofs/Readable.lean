import Listing.Endpoint
import Listing.Proofs.Enforcement
import Listing.Proofs.Numerals

/-!
# Requests that can be read

Where the page sizes of an endpoint are numbers, only two things stop a request from being read: a
query string with too many fields, and a page or page size that begins with an integer of more
digits than are read (`exists_reads_iff`). A request that is read is accounted for, filter by filter
and sort by sort (`read_accounted_iff`).
-/

namespace Listing

/-- A text that begins with an integer of more digits than are read. -/
def Request.Overlong (t : Text) : Prop :=
  ∃ negative digits, leadingInteger t = some (negative, digits) ∧ digitLimit < digits.length

theorem Request.not_overlong {t digits : Text} {negative : Bool}
    (found : leadingInteger t = some (negative, digits)) (few : digits.length ≤ digitLimit) :
    ¬ Overlong t := by
  rintro ⟨_, _, leading, long⟩
  cases found.symm.trans leading
  exact Nat.not_lt.2 few long

/-- A parameter that begins with few digits is not overlong. -/
theorem Request.not_overlong_given {raw : Option Text} {t digits : Text} {negative : Bool}
    (given : raw = some t) (found : leadingInteger t = some (negative, digits))
    (few : digits.length ≤ digitLimit) : ∀ u, raw = some u → ¬ Overlong u := by
  intro u again
  rw [← Option.some.inj (given.symm.trans again)]
  exact not_overlong found few

/-- An integer that is too long to be written is too long to be read. -/
theorem Request.overlong_natText : Overlong (natText (10 ^ digitLimit)) :=
  ⟨false, _, leadingInteger_natText _, digitLimit_lt_length⟩

/-- The page sizes of an endpoint are numbers. -/
structure Capability.Numeric (c : Capability) (p : Preferences) : Prop where
  size : ∃ n, c.pageSize p = .number n
  greatest : ∃ n, c.greatestPageSize p = .number n

/-- The standard page sizes are numbers. -/
theorem Capability.numeric_of_unset {c : Capability} (noSize : c.defaultPageSize = none)
    (noGreatest : c.maxPageSize = none) : c.Numeric {} where
  size := ⟨.whole 20, by rw [pageSize, noSize]; rfl⟩
  greatest := ⟨.whole 100, by rw [greatestPageSize, noGreatest]; rfl⟩

/-- A query string with few enough fields, whose page and page size are not overlong. -/
structure Visit.Readable (v : Visit) : Prop where
  fields : ∀ limit, v.fieldLimit = some limit → (v.queryString.splitOn '&').length ≤ limit
  page : ∀ t, (Request.ofPairs (Form.read v.queryString)).page = some t → ¬ Request.Overlong t
  pageSize : ∀ t, (Request.ofPairs (Form.read v.queryString)).pageSize = some t →
    ¬ Request.Overlong t

/-- What is read from the query string of a visit. -/
def Visit.Reads (v : Visit) (c : Capability) (p : Preferences) (o : Outcome) : Prop :=
  ∃ r, Request.ofQueryString v.fieldLimit v.queryString = .ok r ∧ r.read c p = .ok o

section
variable {c : Capability} {p : Preferences}

theorem exists_parseInt_iff {t : Text} :
    (∃ n, Request.parseInt t = .ok n) ↔ ¬ Request.Overlong t := by
  unfold Request.parseInt Request.Overlong
  cases Request.leadingInteger t with
  | none => simp
  | some signed =>
    obtain ⟨negative, digits⟩ := signed
    by_cases long : digitLimit < digits.length
    · simp [long]
    · simp [long]

theorem exists_readPositive_iff (fault : Text → Fault) {raw : Option Text} :
    (∃ read, Request.readPositive fault raw = .ok read) ↔
      ∀ t, raw = some t → ¬ Request.Overlong t := by
  cases raw with
  | none => exact iff_of_true ⟨_, rfl⟩ (by simp)
  | some t =>
    simp only [Option.some.injEq, forall_eq', ← exists_parseInt_iff]
    show (∃ read, (Request.parsePositive t).map _ = .ok read) ↔ _
    unfold Request.parsePositive
    cases Request.parseInt t with
    | error failure => exact iff_of_false (fun ⟨_, h⟩ => by cases h) fun ⟨_, h⟩ => by cases h
    | ok n => exact iff_of_true ⟨_, rfl⟩ ⟨n, rfl⟩

theorem exists_readPage_iff {r : Request} :
    (∃ read, r.readPage = .ok read) ↔ ∀ t, r.page = some t → ¬ Request.Overlong t := by
  rw [← exists_readPositive_iff .badPage]
  constructor
  · rintro ⟨_, h⟩
    obtain ⟨read, positive, -⟩ := map_eq_ok_iff.1 h
    exact ⟨read, positive⟩
  · rintro ⟨read, positive⟩
    exact ⟨_, map_eq_ok_iff.2 ⟨read, positive, rfl⟩⟩

/-- The page sizes of the endpoint do not stop the reading. -/
theorem exists_readPageSize_iff (numeric : c.Numeric p) {r : Request} :
    (∃ read, r.readPageSize c p = .ok read) ↔
      ∀ t, r.pageSize = some t → ¬ Request.Overlong t := by
  obtain ⟨m, size⟩ := numeric.size
  obtain ⟨n, greatest⟩ := numeric.greatest
  rw [← exists_readPositive_iff .badPageSize]
  constructor
  · rintro ⟨_, h⟩
    obtain ⟨start, -, h⟩ := bind_eq_ok_iff.1 h
    obtain ⟨read, positive, -⟩ := bind_eq_ok_iff.1 h
    exact ⟨read, positive⟩
  · rintro ⟨⟨asked, faults⟩, positive⟩
    rw [Request.readPageSize, Capability.startingPageSize, size, greatest, positive]
    cases asked with
    | none => exact ⟨_, rfl⟩
    | some k => exact ⟨_, rfl⟩

theorem exists_readPaging_iff (numeric : c.Numeric p) {r : Request} :
    (∃ paging, r.readPaging c p = .ok paging) ↔
      (∀ t, r.page = some t → ¬ Request.Overlong t) ∧
        ∀ t, r.pageSize = some t → ¬ Request.Overlong t := by
  rw [← exists_readPage_iff, ← exists_readPageSize_iff numeric]
  constructor
  · rintro ⟨paging, h⟩
    obtain ⟨page, readPage, h⟩ := bind_eq_ok_iff.1 h
    obtain ⟨pageSize, readPageSize, -⟩ := bind_eq_ok_iff.1 h
    exact ⟨⟨page, readPage⟩, ⟨pageSize, readPageSize⟩⟩
  · rintro ⟨⟨page, readPage⟩, ⟨pageSize, readPageSize⟩⟩
    refine ⟨(page.1, pageSize.1, page.2 ++ pageSize.2), ?_⟩
    rw [Request.readPaging, readPage, readPageSize]
    rfl

/-- Nothing but the paging stops the reading. -/
theorem exists_read_iff (numeric : c.Numeric p) {r : Request} :
    (∃ o, r.read c p = .ok o) ↔
      (∀ t, r.page = some t → ¬ Request.Overlong t) ∧
        ∀ t, r.pageSize = some t → ¬ Request.Overlong t := by
  rw [← exists_readPaging_iff numeric]
  constructor
  · rintro ⟨o, h⟩
    obtain ⟨paging, readPaging, -⟩ := bind_eq_ok_iff.1 h
    exact ⟨paging, readPaging⟩
  · rintro ⟨paging, readPaging⟩
    exact ⟨_, Request.read_of_readPaging readPaging⟩

/-- A request is read, and every filter and every sort of it accounted for, exactly if no overlong
number stops the reading. -/
theorem read_accounted_iff (numeric : c.Numeric p) {r : Request} :
    (∃ o, r.read c p = .ok o ∧ c.Accounts p r o) ↔
      (∀ t, r.page = some t → ¬ Request.Overlong t) ∧
        ∀ t, r.pageSize = some t → ¬ Request.Overlong t := by
  rw [← exists_read_iff numeric]
  constructor
  · rintro ⟨o, read, -⟩
    exact ⟨o, read⟩
  · rintro ⟨o, read⟩
    exact ⟨o, read, Request.accounts_of_read read⟩

/-- One filter of four is allowed and one sort of two, and a filter and a sort are dropped. -/
theorem read_accounted_listed :
    let c : Capability := {
      filterable := some [{ field := "price", operators := ["==", "<"] }]
      sortable := some ["price"] }
    let r : Request := {
      page := some "2", pageSize := some "5", sorts := some "secret,-price"
      filters := some "price<5,secret==1,,price@=2,price" }
    c.Numeric {} ∧ ∃ o, r.read c {} = .ok o ∧ c.Accounts {} r o ∧
      o.query.filters.length = 1 ∧ o.faults.length = 2 ∧ o.warnings.length = 2 := by
  intro c r
  have numeric : c.Numeric {} := Capability.numeric_of_unset rfl rfl
  have page := Request.not_overlong_given (show r.page = some "2".toList from rfl)
    (show _ = some (false, "2".toList) from rfl) (by decide)
  have pageSize := Request.not_overlong_given (show r.pageSize = some "5".toList from rfl)
    (show _ = some (false, "5".toList) from rfl) (by decide)
  obtain ⟨o, read, accounts⟩ := (read_accounted_iff numeric).2 ⟨page, pageSize⟩
  refine ⟨numeric, o, read, accounts, ?_⟩
  obtain rfl := Except.ok.inj ((show r.read c {} = .ok _ from rfl).symm.trans read)
  decide

/-- A page size of more digits than are read leaves a filter unaccounted for. -/
theorem read_accounted_fails_overlong :
    let r : Request := {
      pageSize := some (natText (10 ^ digitLimit)), filters := some "price>5" }
    CommaList.splitFilters "price>5" = ["price>5"] ∧ ({} : Capability).Numeric {} ∧
      ¬ ∃ o, r.read {} {} = .ok o ∧ ({} : Capability).Accounts {} r o := by
  intro r
  have numeric : ({} : Capability).Numeric {} := Capability.numeric_of_unset rfl rfl
  refine ⟨by decide, numeric, ?_⟩
  rintro ⟨o, read, -⟩
  exact ((exists_read_iff numeric).1 ⟨o, read⟩).2 _ rfl Request.overlong_natText

/-- A visit can be read exactly if its query string has few enough fields and no overlong number. -/
theorem exists_reads_iff (numeric : c.Numeric p) {v : Visit} :
    (∃ o, v.Reads c p o) ↔ v.Readable := by
  have limited (pairs : Request) : Request.ofQueryString v.fieldLimit v.queryString = .ok pairs ↔
      (∀ limit, v.fieldLimit = some limit → (v.queryString.splitOn '&').length ≤ limit) ∧
        .ofPairs (Form.read v.queryString) = pairs := by
    have many : (v.fieldLimit.any fun n => n < (v.queryString.splitOn '&').length) = true ↔
        ¬ ∀ limit, v.fieldLimit = some limit → (v.queryString.splitOn '&').length ≤ limit := by
      cases v.fieldLimit <;> simp
    rw [Request.ofQueryString, map_eq_ok_iff, Form.readLimited]
    simp only [many, ite_not]
    split
    · next few =>
      rw [and_iff_right few]
      simp
    · next few => simp [few]
  constructor
  · rintro ⟨o, r, asked, read⟩
    obtain ⟨fields, rfl⟩ := (limited r).1 asked
    obtain ⟨page, pageSize⟩ := (exists_read_iff numeric).1 ⟨o, read⟩
    exact ⟨fields, page, pageSize⟩
  · rintro ⟨fields, page, pageSize⟩
    obtain ⟨o, read⟩ := (exists_read_iff numeric).2 ⟨page, pageSize⟩
    exact ⟨o, _, (limited _).2 ⟨fields, rfl⟩, read⟩

end

end Listing
