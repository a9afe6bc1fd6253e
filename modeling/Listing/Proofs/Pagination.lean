import Listing.Proofs.Readable

/-!
# Page and page size of a request

What the page and the page size of a request are read as, said without the reader. A parameter is
a positive integer if the integer at its start is at least one (`parsePositive_eq_some_iff`). One
that is there and is none is one fault and leaves the default (`taken_of_readPositive`).

`readPaging_iff` puts these together: the paging of a request is read in this way, without a
failure, exactly if neither parameter begins with an integer of more digits than are read
(`overlong_iff`).
-/

namespace Listing

namespace Request

/-! ## Positive integers -/

/-- A text that begins with a positive integer. -/
def Positive (t : Text) (n : Int) : Prop :=
  ∃ negative digits, Leads t negative digits ∧ n = signed negative digits ∧ 1 ≤ n

theorem overlong_iff {t : Text} :
    Overlong t ↔ ∃ negative digits, Leads t negative digits ∧ digitLimit < digits.length := by
  simp only [Overlong, leadingInteger_eq_some_iff]

/-- What is read as positive is a positive integer, and nothing else is. -/
theorem parsePositive_eq_some_iff {t : Text} {asked : Option Int}
    (h : parsePositive t = .ok asked) (n : Int) : asked = some n ↔ Positive t n := by
  obtain ⟨parsed, read, rfl⟩ := map_eq_ok_iff.1 h
  simp only [Positive, ← leadingInteger_eq_some_iff]
  obtain ⟨leading, rfl⟩ | ⟨negative, digits, leading, -, rfl⟩ := parseInt_cases read
  · simp [leading]
  · simp only [leading, Option.filter_eq_some_iff, Option.some.injEq, decide_eq_true_eq,
      Prod.mk.injEq]
    constructor
    · rintro ⟨rfl, positive⟩
      exact ⟨negative, digits, ⟨rfl, rfl⟩, rfl, positive⟩
    · rintro ⟨_, _, ⟨rfl, rfl⟩, rfl, positive⟩
      exact ⟨rfl, positive⟩

/-! ## Parameters -/

/-- What a parameter asks for, with the faults about it: a number if it is a positive integer, and
one fault if it is there and is none. -/
inductive Taken (fault : Text → Fault) : Option Text → Option Int → List Fault → Prop where
  | absent : Taken fault none none []
  | valid {t : Text} {n : Int} (positive : Positive t n) : Taken fault (some t) (some n) []
  | invalid {t : Text} (other : ∀ n, ¬ Positive t n) : Taken fault (some t) none [fault t]

theorem taken_of_readPositive {fault : Text → Fault} {raw : Option Text} {asked : Option Int}
    {faults : List Fault} (h : readPositive fault raw = .ok (asked, faults)) :
    Taken fault raw asked faults := by
  cases raw with
  | none =>
    obtain ⟨rfl, rfl⟩ := Prod.mk.inj (Except.ok.inj h)
    exact .absent
  | some t =>
    obtain ⟨n, read, same⟩ := map_eq_ok_iff.1 h
    obtain ⟨rfl, rfl⟩ := Prod.mk.inj same
    have positive := parsePositive_eq_some_iff read
    cases n with
    | none => exact .invalid fun n holds => by cases (positive n).2 holds
    | some n => exact .valid ((positive n).1 rfl)

end Request

/-! ## Paging -/

/-- The smaller of two numbers, and the first one where neither is. -/
def Number.lesser (m n : Number) : Number :=
  if n.less m then n else m

/-- The page size for a number that may be asked for: that number, held to the greatest, or else
the page size of the query that asks for nothing. -/
inductive Capability.Settles (c : Capability) (p : Preferences) : Option Int → Number → Prop where
  | asked {n : Int} {greatest : Number} (limit : c.greatestPageSize p = .number greatest) :
      Settles c p (some n) ((Number.whole n).lesser greatest)
  | standing {start : Query} (unasked : Query.start c p = .ok start) :
      Settles c p none start.pageSize

namespace Request

/-- The page, the page size and the faults that a request comes to. A page that is absent or
invalid is the first one. -/
inductive Paginated (r : Request) (c : Capability) (p : Preferences) :
    Int → Number → List Fault → Prop where
  | intro {asked askedSize : Option Int} {size : Number} {pageFaults sizeFaults : List Fault}
      (page : Taken .badPage r.page asked pageFaults)
      (pageSize : Taken .badPageSize r.pageSize askedSize sizeFaults)
      (settles : c.Settles p askedSize size) :
      Paginated r c p (asked.getD 1) size (pageFaults ++ sizeFaults)

section
variable {c : Capability} {p : Preferences} {r : Request}

theorem settles_of_readPageSize {size : Number} {faults : List Fault}
    (h : r.readPageSize c p = .ok (size, faults)) :
    ∃ asked, Taken .badPageSize r.pageSize asked faults ∧ c.Settles p asked size := by
  obtain ⟨start, starting, h⟩ := bind_eq_ok_iff.1 h
  obtain ⟨⟨asked, found⟩, read, h⟩ := bind_eq_ok_iff.1 h
  cases asked with
  | none =>
    obtain ⟨rfl, rfl⟩ := Prod.mk.inj (Except.ok.inj h)
    exact ⟨none, taken_of_readPositive read,
      .standing (map_eq_ok_iff.2 ⟨start, starting, rfl⟩)⟩
  | some n =>
    obtain ⟨held, holding, same⟩ := bind_eq_ok_iff.1 h
    obtain ⟨rfl, rfl⟩ := Prod.mk.inj (Except.ok.inj same)
    refine ⟨some n, taken_of_readPositive read, ?_⟩
    cases greatest : c.greatestPageSize p with
    | number limit =>
      rw [greatest] at holding
      obtain rfl := Except.ok.inj holding
      exact .asked greatest
    | _ => rw [greatest] at holding; cases holding

theorem paginated_of_readPaging {page : Int} {size : Number} {faults : List Fault}
    (h : r.readPaging c p = .ok (page, size, faults)) : r.Paginated c p page size faults := by
  obtain ⟨⟨number, pageFaults⟩, readPage, h⟩ := bind_eq_ok_iff.1 h
  obtain ⟨⟨held, sizeFaults⟩, readPageSize, h⟩ := bind_eq_ok_iff.1 h
  cases h
  obtain ⟨⟨asked, _⟩, positive, same⟩ := map_eq_ok_iff.1 readPage
  obtain ⟨rfl, rfl⟩ := Prod.mk.inj same
  obtain ⟨askedSize, taken, settles⟩ := settles_of_readPageSize readPageSize
  exact .intro (taken_of_readPositive positive) taken settles

/-- The paging of a request is read without a failure, and as it should be, exactly if neither
parameter begins with an integer of more digits than are read. -/
theorem readPaging_iff (numeric : c.Numeric p) :
    (∃ page size faults, r.readPaging c p = .ok (page, size, faults) ∧
      r.Paginated c p page size faults) ↔
      (∀ t, r.page = some t → ¬ Overlong t) ∧ ∀ t, r.pageSize = some t → ¬ Overlong t := by
  rw [← exists_readPaging_iff numeric]
  constructor
  · rintro ⟨page, size, faults, read, -⟩
    exact ⟨_, read⟩
  · rintro ⟨⟨page, size, faults⟩, read⟩
    exact ⟨page, size, faults, read, paginated_of_readPaging read⟩

end

/-- A page with a sign among blanks and other characters is read, and a negative page size is a
fault. -/
theorem readPaging_signed :
    let r : Request := { page := some " +12x".toList, pageSize := some "-3".toList }
    ({} : Capability).Numeric {} ∧ ∃ page size faults,
      r.readPaging {} {} = .ok (page, size, faults) ∧ r.Paginated {} {} page size faults := by
  intro r
  have numeric : ({} : Capability).Numeric {} := Capability.numeric_of_unset rfl rfl
  have page := not_overlong_given (show r.page = some " +12x".toList from rfl)
    (show _ = some (false, "12".toList) from rfl) (by decide)
  have pageSize := not_overlong_given (show r.pageSize = some "-3".toList from rfl)
    (show _ = some (true, "3".toList) from rfl) (by decide)
  exact ⟨numeric, (readPaging_iff numeric).2 ⟨page, pageSize⟩⟩

/-- A positive page size of more digits than are read stops the reading. -/
theorem readPaging_overlong_fails :
    let r : Request := { pageSize := some (natText (10 ^ digitLimit)) }
    ({} : Capability).Numeric {} ∧
      Positive (natText (10 ^ digitLimit)) ((10 ^ digitLimit : Nat) : Int) ∧
      ¬ ∃ result, r.readPaging {} {} = .ok result := by
  intro r
  have numeric : ({} : Capability).Numeric {} := Capability.numeric_of_unset rfl rfl
  have leading := leadingInteger_natText (10 ^ digitLimit)
  have atLeastOne : (1 : Int) ≤ (10 ^ digitLimit : Nat) :=
    Int.ofNat_le.2 (Nat.pow_pos (by decide))
  refine ⟨numeric, ?_, fun read => ?_⟩
  · refine ⟨false, _, leadingInteger_eq_some_iff.1 leading, ?_, atLeastOne⟩
    rw [signed, if_neg (by decide), digitsValue_natText]
  · exact ((exists_readPaging_iff numeric).1 read).2 _ rfl overlong_natText

end Request

end Listing
