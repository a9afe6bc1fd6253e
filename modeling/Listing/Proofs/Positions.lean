import Mathlib
import Listing.Proofs.Numerals
import Listing.Value.Text

/-!
# Numbers and their texts

Of two numbers that are not NaN exactly one of less, equal and greater holds, whatever their kinds
(`count_order`). Numbers that compare as equal have one text, and an integer and a binary number
with one text compare as equal (`intText_eq_toText_iff`): the text of a binary number that is no
integer has a point or an exponent.
-/

namespace Listing

/-! ## The line -/

theorem Position.count_order {p q : Position} (left : p ≠ .nowhere) (right : q ≠ .nowhere) :
    [p.before q, p.same q, q.before p].count true = 1 := by
  cases p with
  | nowhere => exact absurd rfl left
  | lowest | highest =>
    cases q with
    | nowhere => exact absurd rfl right
    | lowest | point | highest => rfl
  | point a =>
    cases q with
    | nowhere => exact absurd rfl right
    | lowest | highest => rfl
    | point b =>
      rcases Int.lt_trichotomy a b with less | rfl | more
      · simp [before, same, less, Int.ne_of_lt less, Int.not_lt.2 (Int.le_of_lt less)]
      · simp [before, same]
      · simp [before, same, more, Int.ne_of_gt more, Int.not_lt.2 (Int.le_of_lt more)]

namespace Number

theorem position_ne_nowhere {n : Number} (h : n ≠ .real .nan) : n.position ≠ .nowhere := by
  cases n with
  | flag | whole => exact fun same => Position.noConfusion same
  | real x =>
    cases x with
    | finite => exact fun same => Position.noConfusion same
    | infinite negative => cases negative <;> exact fun same => Position.noConfusion same
    | nan => exact absurd rfl h

/-- Of two numbers that are not NaN exactly one of less, equal and greater holds. -/
theorem count_order {a b : Number} (left : a ≠ .real .nan) (right : b ≠ .real .nan) :
    [a.less b, a.same b, b.less a].count true = 1 :=
  Position.count_order (position_ne_nowhere left) (position_ne_nowhere right)

theorem same_iff {a b : Number} :
    a.same b = true ↔ a.position ≠ .nowhere ∧ a.position = b.position := by
  unfold same
  cases a.position <;> simp [Position.same]

theorem same_self {n : Number} (h : n ≠ .real .nan) : n.same n = true :=
  same_iff.2 ⟨position_ne_nowhere h, rfl⟩

theorem same_comm (a b : Number) : a.same b = b.same a := by
  rw [Bool.eq_iff_iff, same_iff, same_iff]
  constructor <;> exact fun ⟨somewhere, equal⟩ => ⟨equal ▸ somewhere, equal.symm⟩

end Number

/-! ## Digits and signs -/

theorem mem_intText {i : Int} {c : Char} (h : c ∈ intText i) : c.isDigit = true ∨ c = '-' := by
  cases i with
  | ofNat n => exact .inl (isDigit_of_mem_natText h)
  | negSucc n =>
    rcases List.mem_cons.1 h with rfl | h
    · exact .inr rfl
    · exact .inl (isDigit_of_mem_natText h)

theorem natText_injective {m n : Nat} (h : natText m = natText n) : m = n := by
  rw [← digitsValue_natText m, h, digitsValue_natText]

theorem intText_injective {i j : Int} (h : intText i = intText j) : i = j := by
  have unsigned (n k : Nat) : natText n ≠ '-' :: natText (k + 1) := by
    intro same
    have digit : '-'.isDigit = true := by
      apply isDigit_of_mem_natText (n := n)
      rw [same]
      exact List.mem_cons_self
    exact absurd digit (by decide)
  cases i with
  | ofNat m =>
    cases j with
    | ofNat n => exact congrArg Int.ofNat (natText_injective h)
    | negSucc n => exact absurd h (unsigned m n)
  | negSucc m =>
    cases j with
    | ofNat n => exact absurd h.symm (unsigned n m)
    | negSucc n =>
      have same := natText_injective (List.cons.inj h).2
      exact congrArg Int.negSucc (Nat.succ.inj same)

/-! ## Binary numbers -/

/-- A decimal is written with a point or an exponent. -/
theorem decimalText_marked (coefficient : Nat) (exponent : Int) :
    '.' ∈ decimalText coefficient exponent ∨ 'e' ∈ decimalText coefficient exponent := by
  unfold decimalText
  dsimp only
  split
  · left
    unfold positionalText
    split
    · simp
    · dsimp only
      split <;> simp
  · right
    simp [exponentText]

theorem exists_mark_text {x : Binary64} (h : x.toInt? = none) :
    ∃ c ∈ x.text, c.isDigit = false ∧ c ≠ '-' := by
  cases x with
  | nan => exact ⟨'n', by decide, by decide⟩
  | infinite negative => exact ⟨'i', by cases negative <;> decide, by decide⟩
  | finite negative m =>
    have some_units : m.units ≠ 0 := by
      intro zero
      simp [Binary64.toInt?, zero] at h
    have inner {c : Char} (hc : c ∈ decimalText m.shortest.1 m.shortest.2) :
        c ∈ (Binary64.finite negative m).text := by
      rw [Binary64.text, if_neg some_units]
      exact List.mem_append_right _ hc
    rcases decimalText_marked m.shortest.1 m.shortest.2 with point | power
    · exact ⟨'.', inner point, by decide⟩
    · exact ⟨'e', inner power, by decide⟩

/-- A binary number that is no integer has the text of none. -/
theorem text_ne_intText {x : Binary64} (h : x.toInt? = none) (i : Int) : x.text ≠ intText i := by
  intro same
  obtain ⟨c, hc, noDigit, noSign⟩ := exists_mark_text h
  rw [same] at hc
  rcases mem_intText hc with digit | sign
  · rw [noDigit] at digit
    contradiction
  · exact noSign sign

theorem natAbs_signedUnits (negative : Bool) (m : Magnitude) :
    (Binary64.signedUnits negative m).natAbs = m.units := by
  cases negative <;> simp [Binary64.signedUnits]

theorem signedUnits_eq_iff {s t : Bool} {m n : Magnitude} :
    Binary64.signedUnits s m = Binary64.signedUnits t n ↔
      m.units = n.units ∧ (s = t ∨ m.units = 0) := by
  cases s <;> cases t <;> simp [Binary64.signedUnits] <;> omega

/-- A binary number is an integer exactly if it lies where the integer does. -/
theorem toInt?_eq_some_iff {x : Binary64} {i : Int} :
    x.toInt? = some i ↔ (Number.real x).position = (Number.whole i).position := by
  cases x with
  | nan => exact iff_of_false nofun nofun
  | infinite negative => cases negative <;> exact iff_of_false nofun nofun
  | finite negative m =>
    have whole {k : Int} (h : (Binary64.finite negative m).toInt? = some k) :
        Binary64.signedUnits negative m = k * unitsPerOne := by
      unfold Binary64.toInt? at h
      dsimp only at h
      split at h
      · next divides =>
        have units : ((m.units / unitsPerOne : Nat) : Int) * unitsPerOne = m.units := by
          exact_mod_cast Nat.div_mul_cancel (Nat.dvd_of_mod_eq_zero divides)
        rw [← Option.some.inj h]
        cases negative with
        | false => exact units.symm
        | true => exact (congrArg Int.neg units.symm).trans (Int.neg_mul ..).symm
      · contradiction
    show _ ↔ Position.point (Binary64.signedUnits negative m) = .point (i * unitsPerOne)
    rw [Position.point.injEq]
    constructor
    · exact whole
    · intro h
      have divides : m.units % unitsPerOne = 0 := by
        apply Nat.mod_eq_zero_of_dvd
        have size : m.units = i.natAbs * unitsPerOne := by
          rw [← Int.natAbs_natCast unitsPerOne, ← Int.natAbs_mul, ← h, natAbs_signedUnits]
        exact size ▸ Nat.dvd_mul_left unitsPerOne i.natAbs
      obtain ⟨k, read⟩ : ∃ k, (Binary64.finite negative m).toInt? = some k :=
        ⟨_, if_pos divides⟩
      have same := (whole read).symm.trans h
      rw [read, Number.position_whole_injective (congrArg Position.point same)]

/-! ## Texts -/

theorem toText_real_of_toInt? {x : Binary64} {i : Int} (h : x.toInt? = some i) :
    (Value.number (.real x)).toText = intText i := by
  rw [Value.toText, h]

theorem toText_real_of_none {x : Binary64} (h : x.toInt? = none) :
    (Value.number (.real x)).toText = x.text := by
  rw [Value.toText, h]

/-- An integer and a binary number have one text exactly if they compare as equal. -/
theorem intText_eq_toText_iff {i : Int} {x : Binary64} :
    intText i = (Value.number (.real x)).toText ↔ (Number.whole i).same (.real x) = true := by
  have place : (Number.whole i).same (.real x) = true ↔ x.toInt? = some i := by
    rw [Number.same_iff, toInt?_eq_some_iff, and_iff_right (Number.position_ne_nowhere (by simp))]
    exact eq_comm
  rw [place]
  cases read : x.toInt? with
  | none =>
    rw [toText_real_of_none read]
    exact iff_of_false (fun same => text_ne_intText read i same.symm) (by simp)
  | some j =>
    rw [toText_real_of_toInt? read, Option.some.injEq]
    exact ⟨fun same => (intText_injective same).symm, fun same => same ▸ rfl⟩

/-- Binary numbers that compare as equal have one text: both zeros are written without a sign. -/
theorem toText_real_of_same {x y : Binary64} (h : (Number.real x).same (.real y) = true) :
    (Value.number (.real x)).toText = (Value.number (.real y)).toText := by
  obtain ⟨somewhere, same⟩ := Number.same_iff.1 h
  cases read : x.toInt? with
  | some i =>
    have other : y.toInt? = some i :=
      toInt?_eq_some_iff.2 (same.symm.trans (toInt?_eq_some_iff.1 read))
    rw [toText_real_of_toInt? read, toText_real_of_toInt? other]
  | none =>
    -- Only the two zeros are different and equal, and they are integers.
    suffices x = y from this ▸ rfl
    cases x with
    | nan => exact absurd rfl somewhere
    | infinite s =>
      cases y with
      | nan | finite => cases s <;> exact nomatch same
      | infinite t =>
        cases s with
        | false =>
          cases t with
          | false => rfl
          | true => exact nomatch same
        | true =>
          cases t with
          | false => exact nomatch same
          | true => rfl
    | finite s m =>
      cases y with
      | nan => exact nomatch same
      | infinite t => cases t <;> exact nomatch same
      | finite t n =>
        obtain ⟨units, sign⟩ := signedUnits_eq_iff.1 (Position.point.inj same)
        obtain rfl : m = n := by
          cases m
          cases n
          cases units
          rfl
        rcases sign with rfl | zero
        · rfl
        · have integer : (Binary64.finite s m).toInt? ≠ none := by
            rw [Binary64.toInt?, zero, Nat.zero_mod, if_pos rfl]
            exact Option.some_ne_none _
          exact absurd read integer

end Listing
