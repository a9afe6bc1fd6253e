import Mathlib
import Listing.ValueType
import Listing.Proofs.Literals
import Listing.Proofs.Positions

/-!
# Typed values

A value that was read from a text under a declared type is written and read again under that type.

* **binary numbers**: a finite number is read from its text as an equal one (`exists_read?_toText`),
  the text of an infinite one is no literal (`read?_toText_infinite`);
* **overflow**: a literal is read as an infinite number exactly if the number that it writes is
  rounded beyond the greatest finite one (`NumberLiteral.value_cases`);
* **round trip**: so a typed value survives unless it is a number and its literal overflows
  (`ValueType.coerce_toText_iff`).
-/

namespace Listing

/-! ## Binary numbers -/

theorem Magnitude.shortest_ne_zero {m : Magnitude} (some : m.units ≠ 0) : m.shortest.1 ≠ 0 := by
  intro none
  have read := m.readsFrom_shortest
  rw [none, ← Binary64.ofDecimal_eq_finite_iff (s := false), Binary64.ofDecimal, if_pos rfl,
    Binary64.zero, Binary64.finite.injEq] at read
  exact some (congrArg Magnitude.units read.2).symm

theorem signedUnits_of_natAbs {m : Magnitude} {i : Int} (units : m.units = i.natAbs * unitsPerOne) :
    Binary64.signedUnits (i < 0) m = i * unitsPerOne := by
  unfold Binary64.signedUnits
  rw [units, Int.natCast_mul]
  simp only [decide_eq_true_eq]
  split
  · next below => rw [Int.ofNat_natAbs_of_nonpos (Int.le_of_lt below), Int.neg_mul, Int.neg_neg]
  · next above => rw [Int.natAbs_of_nonneg (Int.not_lt.1 above)]

/-- The digits of a whole number of the format are read as it. -/
theorem ofDecimal_whole (negative : Bool) {m : Magnitude} {n : Nat}
    (units : m.units = n * unitsPerOne) : Binary64.ofDecimal negative n 0 = .finite negative m := by
  rw [Binary64.ofDecimal_eq, Binary64.ofRatio_eq_finite_iff]
  apply roundedUnits_of_onGrid (Binary64.ten_pow_pos _) m.representable.2
  rw [units]
  simp

/-- A finite number is read from its text as an equal one. -/
theorem exists_read?_toText (negative : Bool) (m : Magnitude) :
    ∃ l, NumberLiteral.read? (Value.number (.real (.finite negative m))).toText = some l ∧
      (Number.real l.value).same (.real (.finite negative m)) = true := by
  cases whole : (Binary64.finite negative m).toInt? with
  | none =>
    have some : m.units ≠ 0 := by
      intro zero
      simp [Binary64.toInt?, zero] at whole
    obtain ⟨l, read, value⟩ :=
      (spells_decimalText negative (Magnitude.shortest_ne_zero some) m.shortest.2).read?
    refine ⟨l, ?_, ?_⟩
    · rw [toText_real_of_none whole, Binary64.text, if_neg some]
      exact read
    · rw [value, Binary64.ofDecimal_eq_finite_iff.2 m.readsFrom_shortest]
      exact Number.same_self (by simp)
  | some i =>
    obtain ⟨l, read, value⟩ := (spells_natText (i < 0) i.natAbs).read?
    refine ⟨l, ?_, ?_⟩
    · rw [toText_real_of_toInt? whole, intText_eq]
      exact read
    · -- The text of the negative zero has no sign, so only the place is kept.
      have place := Position.point.inj (toInt?_eq_some_iff.1 whole)
      have units : m.units = i.natAbs * unitsPerOne := by
        have sizes := congrArg Int.natAbs place
        rwa [natAbs_signedUnits, Int.natAbs_mul, Int.natAbs_natCast] at sizes
      rw [value, ofDecimal_whole (i < 0) units]
      refine Number.same_iff.2 ⟨Number.position_ne_nowhere (by simp), ?_⟩
      exact congrArg Position.point ((signedUnits_of_natAbs units).trans place.symm)

/-- The text of an infinite number is no literal. -/
theorem read?_toText_infinite (negative : Bool) :
    NumberLiteral.read? (Value.number (.real (.infinite negative))).toText = none := by
  cases negative <;> decide

/-! ## Overflow -/

namespace NumberLiteral

/-- The number that a literal writes, without its sign. -/
def magnitude (l : NumberLiteral) : ℚ :=
  digitsValue (l.whole ++ l.fraction) * 10 ^ (l.power - l.fraction.length)

/-- A literal writes a number that is rounded beyond the greatest finite one. -/
def Overflows (l : NumberLiteral) : Prop :=
  roundingLimit ≤ l.magnitude

theorem value_cases (l : NumberLiteral) :
    l.Overflows ∧ l.value = .infinite l.negative ∨
      ¬ l.Overflows ∧ ∃ m, l.value = .finite l.negative m :=
  Binary64.ofDecimal_cases _ _ _

end NumberLiteral

/-! ## Round trip -/

namespace ValueType

/-- That a value has a text and is read from it, under a declared type, as an equal value. -/
def Survives (declared : Option ValueType) (v : Value) : Prop :=
  v.writable = true ∧ ∃ again, coerce declared v.toText = .ok again ∧ again.same v = true

theorem survives_text {declared : Option ValueType} {raw : Text}
    (h : coerce declared raw = .ok (.text raw)) : Survives declared (.text raw) :=
  ⟨rfl, .text raw, h, by simp [Value.same]⟩

theorem survives_flag (b : Bool) : Survives (some .boolean) (.flag b) := by
  refine ⟨rfl, .flag b, ?_, ?_⟩
  · cases b <;> rfl
  · rw [Value.same_number]
    exact Number.same_self (by simp)

theorem survives_finite (negative : Bool) (m : Magnitude) :
    Survives (some .number) (.number (.real (.finite negative m))) := by
  obtain ⟨l, read, same⟩ := exists_read?_toText negative m
  refine ⟨rfl, .number (.real l.value), ?_, ?_⟩
  · rw [coerce, read]
  · rwa [Value.same_number]

theorem not_survives_infinite (negative : Bool) :
    ¬ Survives (some .number) (.number (.real (.infinite negative))) := by
  rintro ⟨-, again, read, -⟩
  rw [coerce, read?_toText_infinite] at read
  contradiction

/-- A value that was read from a text under a declared type survives being written, unless it is a
number and its literal overflows. -/
theorem coerce_toText_iff {declared : Option ValueType} {raw : Text} {v : Value}
    (h : coerce declared raw = .ok v) :
    Survives declared v ↔
      ¬ (declared = some .number ∧ ∃ l, NumberLiteral.read? raw = some l ∧ l.Overflows) := by
  cases declared with
  | none =>
    obtain rfl := Except.ok.inj h
    exact iff_of_true (survives_text rfl) nofun
  | some t =>
    cases t with
    | string =>
      obtain rfl := Except.ok.inj h
      exact iff_of_true (survives_text rfl) nofun
    | boolean =>
      obtain ⟨b, rfl⟩ : ∃ b, v = .flag b := by
        unfold coerce at h
        dsimp only at h
        split at h
        · exact ⟨true, (Except.ok.inj h).symm⟩
        · split at h
          · exact ⟨false, (Except.ok.inj h).symm⟩
          · contradiction
      exact iff_of_true (survives_flag b) nofun
    | number =>
      cases read : NumberLiteral.read? raw with
      | none =>
        rw [coerce, read] at h
        contradiction
      | some l =>
        rw [coerce, read] at h
        obtain rfl := Except.ok.inj h
        simp only [true_and, Option.some.injEq, exists_eq_left']
        rcases l.value_cases with ⟨beyond, infinite⟩ | ⟨within, m, finite⟩
        · rw [infinite]
          exact iff_of_false (not_survives_infinite l.negative) (not_not_intro beyond)
        · rw [finite]
          exact iff_of_true (survives_finite l.negative m) within

/-- A price is read, written and read again. -/
theorem coerce_toText_price : ∃ v, coerce (some .number) "99.50".toList = .ok v ∧
    Survives (some .number) v ∧ v.toText = "99.5".toList := by
  refine ⟨_, rfl, (coerce_toText_iff (rfl : coerce _ "99.50".toList = _)).2 ?within,
    by decide +kernel⟩
  rintro ⟨-, l, read, beyond⟩
  obtain rfl : ⟨false, "99".toList, "50".toList, false, []⟩ = l := Option.some.inj read
  have worth : NumberLiteral.magnitude ⟨false, "99".toList, "50".toList, false, []⟩ = 99.5 := by
    rw [NumberLiteral.magnitude, show digitsValue ("99".toList ++ "50".toList) = 9950 by decide]
    norm_num [NumberLiteral.power, show "50".toList.length = 2 by decide]
  have limit : (100 : ℚ) ≤ roundingLimit := by
    exact_mod_cast (by decide +kernel : 100 ≤ roundingLimit)
  rw [NumberLiteral.Overflows, worth] at beyond
  linarith

/-- A number beyond the format is read, and its text is refused. -/
theorem coerce_toText_fails_overflow :
    coerce (some .number) "1e400".toList = .ok (.number (.real (.infinite false))) ∧
      (Value.number (.real (.infinite false))).toText = "inf".toList ∧
      coerce (some .number) "inf".toList = .error (.notNumber "inf".toList) :=
  ⟨rfl, rfl, rfl⟩

end ValueType

end Listing
