import Mathlib
import Listing.Binary64.Shortest
import Listing.Proofs.Rounding

/-!
# Decimals

A decimal is read as the binary number nearest to it: the shortcuts for large and small exponents
change nothing (`ofDecimal_eq`), so that only its value counts, and not how many of its zeros stand
in the coefficient (`ofDecimal_mul_ten_pow`).

* **overflow**: it is read as infinite exactly from `roundingLimit` on (`ofDecimal_cases`);
* **the shortest decimal**: whichever of the decimals is chosen for a value is read as that value
  (`readsFrom_shortest`).
-/

namespace Listing

/-! ## Equal quotients -/

theorem nearestEven_mul {k : Nat} (positive : 0 < k) (n d : Nat) :
    nearestEven (n * k) (d * k) = nearestEven n d := by
  unfold nearestEven
  have below : 2 * (n % d * k) < d * k ↔ 2 * (n % d) < d := by
    rw [← Nat.mul_assoc, Nat.mul_lt_mul_right positive]
  have above : d * k < 2 * (n % d * k) ↔ d < 2 * (n % d) := by
    rw [← Nat.mul_assoc, Nat.mul_lt_mul_right positive]
  simp only [Nat.mul_div_mul_right n d positive, Nat.mul_mod_mul_right, below, above]

theorem roundedUnits_mul {k : Nat} (positive : 0 < k) (num den : Nat) :
    roundedUnits (num * k) (den * k) = roundedUnits num den := by
  unfold roundedUnits
  rw [Nat.mul_right_comm num k, Nat.mul_div_mul_right _ _ positive]
  dsimp only
  rw [Nat.mul_right_comm den k, nearestEven_mul positive]

theorem roundedUnits_congr {a b c d : Nat} (left : 0 < b) (right : 0 < d) (same : a * d = c * b) :
    roundedUnits a b = roundedUnits c d := by
  rw [← roundedUnits_mul right a b, same, Nat.mul_comm b d, roundedUnits_mul left]

/-- A quotient that is a number of units of the format is rounded to it. -/
theorem roundedUnits_of_onGrid {num den units : Nat} (positive : 0 < den) (grid : OnGrid units)
    (exact : num * unitsPerOne = units * den) : roundedUnits num den = units := by
  rw [roundedUnits_eq]
  apply Nat.le_antisymm
  · exact onGrid_le positive grid (Nat.le_of_eq exact)
  · exact le_onGrid positive grid (Nat.le_of_eq exact.symm)

namespace Binary64

theorem ofRatio_eq_of_units {a b c d : Nat} (s : Bool)
    (same : roundedUnits a b = roundedUnits c d) : ofRatio s a b = ofRatio s c d := by
  unfold ofRatio
  rw [same]

theorem ofRatio_eq_finite_iff {s : Bool} {num den : Nat} {m : Magnitude} :
    ofRatio s num den = .finite s m ↔ roundedUnits num den = m.units := by
  unfold ofRatio
  split
  · next held =>
    rw [finite.injEq, and_iff_right rfl]
    constructor
    · rintro rfl
      rfl
    · intro units
      cases m
      cases units
      rfl
  · next beyond =>
    refine iff_of_false nofun fun units => beyond ?_
    rw [units]
    exact m.representable

theorem ofRatio_eq_infinite_iff {s : Bool} {num den : Nat} (positive : 0 < den) :
    ofRatio s num den = .infinite s ↔ roundingLimit * den ≤ num := by
  rw [← Nat.not_lt, ← representable_roundedUnits_iff positive]
  unfold ofRatio
  split
  · next held => exact iff_of_false nofun (not_not_intro held)
  · next beyond => exact iff_of_true rfl beyond

/-! ## Decimals as quotients -/

theorem digitCount_pos (n : Nat) : 0 < digitCount n :=
  List.length_pos_iff.2 Nat.toDigits_ne_nil

theorem lt_ten_pow_digitCount (n : Nat) : n < 10 ^ digitCount n :=
  (Nat.length_toDigits_le_iff (by decide) (digitCount_pos n)).1 (Nat.le_refl _)

theorem ten_pow_pos (k : Nat) : 0 < 10 ^ k :=
  Nat.pow_pos (by decide)

/-! Powers of that size are better not computed in a proof, so each exponent is kept apart. -/

theorem roundingLimit_le {k : Nat} (h : 310 ≤ k) : roundingLimit ≤ 10 ^ k := by
  obtain ⟨e, he⟩ : ∃ e, e = 310 := ⟨_, rfl⟩
  have least : roundingLimit ≤ 10 ^ e := by
    rw [he]
    decide +kernel
  exact Nat.le_trans least (Nat.pow_le_pow_right (by decide) (he ▸ h))

theorem two_mul_unitsPerOne_le {k : Nat} (h : 324 ≤ k) : 2 * unitsPerOne ≤ 10 ^ k := by
  obtain ⟨e, he⟩ : ∃ e, e = 324 := ⟨_, rfl⟩
  have least : 2 * unitsPerOne ≤ 10 ^ e := by
    rw [he]
    decide +kernel
  exact Nat.le_trans least (Nat.pow_le_pow_right (by decide) (he ▸ h))

/-- A decimal is read as the quotient that it is. -/
theorem ofDecimal_eq (s : Bool) (coefficient : Nat) (exponent : Int) :
    ofDecimal s coefficient exponent =
      ofRatio s (coefficient * 10 ^ exponent.toNat) (10 ^ (-exponent).toNat) := by
  unfold ofDecimal
  split
  · next none =>
    symm
    rw [none, Nat.zero_mul, zero, ofRatio_eq_finite_iff]
    apply roundedUnits_of_onGrid (ten_pow_pos _) (Nat.dvd_zero _)
    rw [Nat.zero_mul, Nat.zero_mul]
  · next some =>
    split
    · next beyond =>
      symm
      rw [ofRatio_eq_infinite_iff (ten_pow_pos _), show (-exponent).toNat = 0 by omega,
        Nat.pow_zero, Nat.mul_one]
      calc roundingLimit ≤ 10 ^ exponent.toNat := roundingLimit_le (by omega)
        _ ≤ coefficient * 10 ^ exponent.toNat := Nat.le_mul_of_pos_left _ (Nat.pos_of_ne_zero some)
    · split
      · next below =>
        have digits := digitCount_pos coefficient
        symm
        rw [zero, ofRatio_eq_finite_iff, show exponent.toNat = 0 by omega, Nat.pow_zero,
          Nat.mul_one, ← Nat.le_zero_eq, ← Nat.not_lt, roundedUnits_pos_iff (ten_pow_pos _),
          Nat.not_lt]
        calc 2 * (coefficient * unitsPerOne) = coefficient * (2 * unitsPerOne) :=
              Nat.mul_left_comm ..
          _ ≤ 10 ^ digitCount coefficient * 10 ^ ((-exponent).toNat - digitCount coefficient) :=
              Nat.mul_le_mul (Nat.le_of_lt (lt_ten_pow_digitCount coefficient))
                (two_mul_unitsPerOne_le (by omega))
          _ = 10 ^ (-exponent).toNat := by rw [← Nat.pow_add, Nat.add_sub_of_le (by omega)]
      · split
        · next whole =>
          rw [show (-exponent).toNat = 0 by omega, Nat.pow_zero]
          rfl
        · next part =>
          rw [show exponent.toNat = 0 by omega, Nat.pow_zero, Nat.mul_one]
          rfl

/-- Zeros at the end of the coefficient may stand in the exponent instead. -/
theorem ofDecimal_mul_ten_pow (s : Bool) (coefficient zeros : Nat) (exponent : Int) :
    ofDecimal s (coefficient * 10 ^ zeros) exponent =
      ofDecimal s coefficient (exponent + zeros) := by
  rw [ofDecimal_eq, ofDecimal_eq]
  apply ofRatio_eq_of_units
  apply roundedUnits_congr (ten_pow_pos _) (ten_pow_pos _)
  have exponents : zeros + exponent.toNat + (-(exponent + zeros)).toNat =
      (exponent + zeros).toNat + (-exponent).toNat := by
    omega
  simp only [Nat.mul_assoc, ← Nat.pow_add]
  rw [exponents]

/-- A decimal is read as infinite from `roundingLimit` on, and otherwise as a finite number. -/
theorem ofDecimal_cases (s : Bool) (coefficient : Nat) (exponent : Int) :
    (roundingLimit : ℚ) ≤ coefficient * 10 ^ exponent ∧
        ofDecimal s coefficient exponent = .infinite s ∨
      ¬ (roundingLimit : ℚ) ≤ coefficient * 10 ^ exponent ∧
        ∃ m, ofDecimal s coefficient exponent = .finite s m := by
  have quotient : (10 : ℚ) ^ exponent = 10 ^ exponent.toNat / 10 ^ (-exponent).toNat := by
    rw [← zpow_natCast, ← zpow_natCast, ← zpow_sub₀ (by norm_num), Int.toNat_sub_toNat_neg]
  have size : (roundingLimit : ℚ) ≤ coefficient * 10 ^ exponent ↔
      roundingLimit * 10 ^ (-exponent).toNat ≤ coefficient * 10 ^ exponent.toNat := by
    rw [quotient, mul_div_assoc', le_div_iff₀ (by positivity)]
    exact_mod_cast Iff.rfl
  rw [size, ofDecimal_eq, ← ofRatio_eq_infinite_iff (s := s) (ten_pow_pos _)]
  unfold ofRatio
  split
  · next held => exact .inr ⟨nofun, ⟨_, held⟩, rfl⟩
  · exact .inl ⟨rfl, rfl⟩

theorem ofDecimal_eq_finite_iff {s : Bool} {coefficient : Nat} {exponent : Int} {m : Magnitude} :
    ofDecimal s coefficient exponent = .finite s m ↔ m.readsFrom coefficient exponent = true := by
  rw [Magnitude.readsFrom, decide_eq_true_iff, ofDecimal_eq, ofDecimal_eq, ofRatio_eq_finite_iff,
    ofRatio_eq_finite_iff]

end Binary64

/-! ## The shortest decimal -/

namespace Magnitude

theorem readsFrom_of_decimalOf {m : Magnitude} {n : Nat} {decimal : Nat × Int}
    (h : m.decimalOf n = some decimal) : m.readsFrom decimal.1 decimal.2 = true := by
  obtain ⟨coefficient, found, rfl⟩ := Option.map_eq_some_iff.1 h
  have read := List.find?_some found
  exact read

theorem exact_eq (m : Magnitude) {e : Nat} (h : e = 1074) : m.exact = m.units * 5 ^ e := by
  unfold exact
  rw [← h]
  rfl

/-- A unit is `10^-1074` times a power of five, so the exact decimal is read as the value. -/
theorem readsFrom_exact (m : Magnitude) : m.readsFrom m.exact (-1074) = true := by
  obtain ⟨e, he⟩ : ∃ e, e = 1074 := ⟨_, rfl⟩
  have exponent : (-1074 : Int) = -e := by omega
  rw [exponent, ← Binary64.ofDecimal_eq_finite_iff (s := false), Binary64.ofDecimal_eq,
    Binary64.ofRatio_eq_finite_iff, Int.neg_neg, Int.toNat_natCast, Int.toNat_neg_natCast,
    Nat.pow_zero, Nat.mul_one]
  apply roundedUnits_of_onGrid (Binary64.ten_pow_pos e) m.representable.2
  rw [exact_eq m he, unitsPerOne_eq he, Nat.mul_assoc, ← Nat.mul_pow]

/-- The shortest decimal of a value is read as the value. -/
theorem readsFrom_shortest (m : Magnitude) : m.readsFrom m.shortest.1 m.shortest.2 = true := by
  unfold shortest
  cases found : (List.range' 1 17).findSome? m.decimalOf with
  | none =>
    rw [Option.getD_none]
    exact readsFrom_exact m
  | some decimal =>
    obtain ⟨n, -, read⟩ := List.exists_of_findSome?_eq_some found
    exact readsFrom_of_decimalOf read

end Magnitude

end Listing
