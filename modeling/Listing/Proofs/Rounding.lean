import Mathlib
import Listing.Binary64.Basic

/-!
# Rounded quotients

What rounding a quotient of naturals to the binary numbers does, in units of `2^-1074`:

* **the nearest multiple**: `nearestEven_le_iff` says where the nearest natural to a quotient
  lies, ties included;
* **the grid**: a value of the format bounds the rounded quotient wherever it bounds the quotient
  (`le_onGrid`, `onGrid_le`), and the rounded quotient is on the grid again;
* **both ends**: it is within the format exactly below `roundingLimit` (overflow), and is not zero
  exactly above half a unit (underflow);
* **ceilings**: the ceiling survives the rounding exactly if it is on the grid and the quotient is
  not drawn back to its whole part (`ceil_roundedUnits_iff`); up to `2^53` it does unless the
  quotient is lost to zero (`ceil_roundedUnits`).

The laws of the grid are about any quotient `n / d` in units, so that the size of the unit does
not enter them.
-/

namespace Listing

/-! ## The nearest natural -/

section
variable {n d m : Nat}

/-- The nearest natural is at most `m` below the middle between `m` and its successor, and in the
middle if `m` is even. -/
theorem nearestEven_le_iff (positive : 0 < d) :
    nearestEven n d ≤ m ↔ 2 * n < (2 * m + 1) * d ∨ (2 * n = (2 * m + 1) * d ∧ m % 2 = 0) := by
  have split := Nat.div_add_mod n d
  have below := Nat.mod_lt n positive
  have middle : (2 * m + 1) * d = 2 * (d * m) + d := by
    rw [Nat.add_mul, Nat.one_mul, Nat.mul_assoc, Nat.mul_comm m d]
  rw [middle]
  unfold nearestEven
  dsimp only
  rcases Nat.lt_trichotomy m (n / d) with less | rfl | more
  · -- The whole part alone is beyond `m`.
    have step : d * m + d ≤ d * (n / d) := Nat.mul_le_mul_left d less
    split
    · omega
    · split
      · omega
      · split <;> omega
  · split
    · omega
    · split
      · omega
      · split <;> omega
  · have step : d * (n / d) + d ≤ d * m := Nat.mul_le_mul_left d more
    split
    · omega
    · split
      · omega
      · split <;> omega

/-- A natural below a quotient is below the nearest one. -/
theorem le_nearestEven (positive : 0 < d) (h : m * d ≤ n) : m ≤ nearestEven n d := by
  cases m with
  | zero => exact Nat.zero_le _
  | succ k =>
    apply Nat.lt_of_not_le
    intro less
    have before := (nearestEven_le_iff positive).1 less
    rw [Nat.add_mul, Nat.one_mul, Nat.mul_assoc] at before
    rw [Nat.add_mul, Nat.one_mul] at h
    omega

/-- A natural above a quotient is above the nearest one. -/
theorem nearestEven_le (positive : 0 < d) (h : n ≤ m * d) : nearestEven n d ≤ m := by
  apply (nearestEven_le_iff positive).2
  left
  rw [Nat.add_mul, Nat.one_mul, Nat.mul_assoc]
  omega

end

/-! ## Steps -/

/-- A number of units that 53 significant bits can hold. -/
def OnGrid (units : Nat) : Prop := stepAt units ∣ units

theorem log2_le_log2 {a b : Nat} (h : a ≤ b) : a.log2 ≤ b.log2 := by
  by_cases zero : a = 0
  · rw [zero, Nat.log2_zero]
    exact Nat.zero_le _
  · have present : b ≠ 0 := fun none => zero (Nat.eq_zero_of_le_zero (none ▸ h))
    exact (Nat.le_log2 present).2 (Nat.le_trans (Nat.log2_self_le zero) h)

/-- A step divides every later one. -/
theorem stepAt_dvd {a b : Nat} (h : a.log2 ≤ b.log2) : stepAt a ∣ stepAt b :=
  Nat.pow_dvd_pow 2 (Nat.sub_le_sub_right h 52)

theorem stepAt_pos (units : Nat) : 0 < stepAt units :=
  Nat.two_pow_pos _

/-- Between two powers of two the step leaves 53 bits. -/
theorem stepAt_eq {units e : Nat} (least : 2 ^ 52 * 2 ^ e ≤ units)
    (below : units < 2 ^ 53 * 2 ^ e) : stepAt units = 2 ^ e := by
  rw [← Nat.pow_add] at least below
  have present : units ≠ 0 := Nat.ne_of_gt (Nat.lt_of_lt_of_le (Nat.two_pow_pos _) least)
  have lower := (Nat.le_log2 present).2 least
  have upper := (Nat.log2_lt present).2 below
  show 2 ^ (units.log2 - 52) = 2 ^ e
  congr 1
  omega

theorem onGrid_two_pow (k : Nat) : OnGrid (2 ^ k) := by
  show 2 ^ ((2 ^ k).log2 - 52) ∣ 2 ^ k
  rw [Nat.log2_two_pow]
  exact Nat.pow_dvd_pow 2 (Nat.sub_le _ _)

/-- Up to `2^53` all multiples of a power of two are on the grid. -/
theorem onGrid_mul_two_pow {k : Nat} (h : k ≤ 2 ^ 53) (e : Nat) : OnGrid (k * 2 ^ e) := by
  rcases Nat.lt_or_eq_of_le h with less | rfl
  · by_cases zero : k = 0
    · rw [zero, Nat.zero_mul]
      exact Nat.dvd_zero _
    · have present : k * 2 ^ e ≠ 0 := Nat.mul_ne_zero zero (Nat.ne_of_gt (Nat.two_pow_pos e))
      have bound : k * 2 ^ e < 2 ^ (53 + e) := by
        rw [Nat.pow_add]
        exact Nat.mul_lt_mul_of_pos_right less (Nat.two_pow_pos e)
      have size := (Nat.log2_lt present).2 bound
      exact Nat.dvd_trans (Nat.pow_dvd_pow 2 (by omega)) (Nat.dvd_mul_left _ k)
  · rw [← Nat.pow_add]
    exact onGrid_two_pow _

/-! ## The grid -/

/-- A quotient rounded to a multiple of the step at its size. -/
def nearestOnGrid (n d : Nat) : Nat :=
  stepAt (n / d) * nearestEven n (d * stepAt (n / d))

theorem roundedUnits_eq (num den : Nat) :
    roundedUnits num den = nearestOnGrid (num * unitsPerOne) den :=
  rfl

section
variable {n d units : Nat}

theorem cell_pos (positive : 0 < d) : 0 < d * stepAt (n / d) :=
  Nat.mul_pos positive (stepAt_pos _)

theorem le_onGrid_of_dvd (positive : 0 < d) (multiple : stepAt (n / d) ∣ units)
    (h : units * d ≤ n) : units ≤ nearestOnGrid n d := by
  obtain ⟨m, rfl⟩ := multiple
  apply Nat.mul_le_mul_left
  apply le_nearestEven (cell_pos positive)
  rwa [Nat.mul_comm (stepAt _) m, Nat.mul_assoc, Nat.mul_comm (stepAt _) d] at h

theorem onGrid_le_of_dvd (positive : 0 < d) (multiple : stepAt (n / d) ∣ units)
    (h : n ≤ units * d) : nearestOnGrid n d ≤ units := by
  obtain ⟨m, rfl⟩ := multiple
  apply Nat.mul_le_mul_left
  apply nearestEven_le (cell_pos positive)
  rwa [Nat.mul_comm (stepAt _) m, Nat.mul_assoc, Nat.mul_comm (stepAt _) d] at h

/-- A value of the format below a quotient is below the rounded quotient. -/
theorem le_onGrid (positive : 0 < d) (grid : OnGrid units) (h : units * d ≤ n) :
    units ≤ nearestOnGrid n d := by
  have whole : units ≤ n / d := (Nat.le_div_iff_mul_le positive).2 h
  by_cases zero : units = 0
  · rw [zero]
    exact Nat.zero_le _
  have present : n / d ≠ 0 := fun none => zero (Nat.eq_zero_of_le_zero (none ▸ whole))
  rcases Nat.lt_or_eq_of_le (log2_le_log2 whole) with less | same
  · -- Between the two there is a power of two, which every step up to there divides.
    have power : 2 ^ (n / d).log2 ≤ nearestOnGrid n d := by
      apply le_onGrid_of_dvd positive (Nat.pow_dvd_pow 2 (Nat.sub_le _ _))
      exact (Nat.le_div_iff_mul_le positive).1 (Nat.log2_self_le present)
    exact Nat.le_trans (Nat.le_of_lt ((Nat.log2_lt zero).1 less)) power
  · exact le_onGrid_of_dvd positive (Nat.dvd_trans (stepAt_dvd (Nat.le_of_eq same.symm)) grid) h

/-- A value of the format above a quotient is above the rounded quotient. -/
theorem onGrid_le (positive : 0 < d) (grid : OnGrid units) (h : n ≤ units * d) :
    nearestOnGrid n d ≤ units := by
  have whole : n / d ≤ units := Nat.div_le_of_le_mul (by rwa [Nat.mul_comm d units])
  exact onGrid_le_of_dvd positive (Nat.dvd_trans (stepAt_dvd (log2_le_log2 whole)) grid) h

/-- A rounded quotient is on the grid: at worst it reached the next power of two. -/
theorem onGrid_nearestOnGrid (positive : 0 < d) : OnGrid (nearestOnGrid n d) := by
  have power : nearestOnGrid n d ≤ 2 ^ ((n / d).log2 + 1) := by
    apply onGrid_le_of_dvd positive (Nat.pow_dvd_pow 2 (by omega))
    exact Nat.le_of_lt ((Nat.div_lt_iff_lt_mul positive).1 Nat.lt_log2_self)
  rcases Nat.lt_or_eq_of_le power with less | same
  · by_cases zero : nearestOnGrid n d = 0
    · rw [zero]
      exact Nat.dvd_zero _
    · have size := (Nat.log2_lt zero).2 less
      exact Nat.dvd_trans (stepAt_dvd (Nat.le_of_lt_succ size)) (Nat.dvd_mul_right _ _)
  · rw [same]
    exact onGrid_two_pow _

/-- A quotient is rounded to zero exactly if it is at most half a unit. -/
theorem nearestOnGrid_pos_iff (positive : 0 < d) : 0 < nearestOnGrid n d ↔ d < 2 * n := by
  by_cases lost : n / d = 0
  · -- Below one unit the step is one unit.
    have below : n < d := by
      have := (Nat.div_lt_iff_lt_mul positive).1 (Nat.lt_one_iff.2 lost)
      rwa [Nat.one_mul] at this
    have units : nearestOnGrid n d = nearestEven n d := by
      unfold nearestOnGrid
      rw [lost, show stepAt 0 = 1 from rfl, Nat.one_mul, Nat.mul_one]
    rw [units, ← Nat.not_le, nearestEven_le_iff positive]
    omega
  · have unit : 1 * d ≤ n := (Nat.le_div_iff_mul_le positive).1 (Nat.one_le_iff_ne_zero.2 lost)
    constructor
    · intro
      omega
    · intro
      exact le_onGrid positive (Nat.one_dvd 1) unit

/-- A rounded quotient is below a power of two exactly if the quotient is below the middle between
that power and the value before it. -/
theorem nearestOnGrid_lt_iff (positive : 0 < d) (e : Nat) :
    nearestOnGrid n d < 2 ^ 53 * 2 ^ e ↔ 2 * n < (2 * (2 ^ 53 - 1) + 1) * (d * 2 ^ e) := by
  have step_pos : 0 < 2 ^ e := Nat.two_pow_pos e
  have cell : 0 < d * 2 ^ e := Nat.mul_pos positive step_pos
  have bound (k : Nat) : k * 2 ^ e * d = k * (d * 2 ^ e) := by
    rw [Nat.mul_assoc, Nat.mul_comm (2 ^ e)]
  rcases Nat.lt_or_ge (n / d) (2 ^ 52 * 2 ^ e) with small | least
  · -- Below the power of two before, the power itself is far.
    have below := (Nat.div_lt_iff_lt_mul positive).1 small
    have rounded := onGrid_le positive (onGrid_mul_two_pow (by decide) e) (Nat.le_of_lt below)
    rw [bound] at below
    omega
  · rcases Nat.lt_or_ge (n / d) (2 ^ 53 * 2 ^ e) with last | beyond
    · -- Between the two powers all steps are the same.
      have rounded : nearestOnGrid n d = 2 ^ e * nearestEven n (d * 2 ^ e) := by
        unfold nearestOnGrid
        rw [stepAt_eq least last]
      have nearest : nearestEven n (d * 2 ^ e) < 2 ^ 53 ↔
          nearestEven n (d * 2 ^ e) ≤ 2 ^ 53 - 1 := by
        omega
      rw [rounded, Nat.mul_comm (2 ^ 53), Nat.mul_lt_mul_left step_pos, nearest,
        nearestEven_le_iff cell]
      -- A tie goes up, since the value before the power has an odd number of steps.
      exact or_iff_left fun tie => absurd tie.2 (by decide)
    · have above := (Nat.le_div_iff_mul_le positive).1 beyond
      have rounded := le_onGrid positive (onGrid_mul_two_pow (Nat.le_refl _) e) above
      rw [bound] at above
      omega

end

/-! ## Ceilings -/

theorem log2_mul_two_pow {m : Nat} (present : m ≠ 0) (e : Nat) :
    (m * 2 ^ e).log2 = m.log2 + e := by
  rw [Nat.log2_eq_iff (Nat.mul_ne_zero present (Nat.ne_of_gt (Nat.two_pow_pos e))),
    Nat.add_right_comm, Nat.pow_add, Nat.pow_add 2 (m.log2 + 1)]
  constructor
  · exact Nat.mul_le_mul_right _ (Nat.log2_self_le present)
  · exact Nat.mul_lt_mul_of_pos_right Nat.lt_log2_self (Nat.two_pow_pos e)

/-- Up to `2^53` all naturals are on the grid. -/
theorem onGrid_of_le {m : Nat} (few : m ≤ 2 ^ 53) : OnGrid m := by
  have plain := onGrid_mul_two_pow few 0
  rwa [Nat.pow_zero, Nat.mul_one] at plain

/-- A natural is on the grid in units of a power of two exactly if it is without them. -/
theorem onGrid_mul_two_pow_iff {m : Nat} (e : Nat) : OnGrid (m * 2 ^ e) ↔ OnGrid m := by
  rcases Nat.le_total m (2 ^ 53) with few | many
  · exact iff_of_true (onGrid_mul_two_pow few e) (onGrid_of_le few)
  · have present : m ≠ 0 := by omega
    have size := (Nat.le_log2 present).2 many
    have step : stepAt (m * 2 ^ e) = stepAt m * 2 ^ e := by
      show 2 ^ ((m * 2 ^ e).log2 - 52) = 2 ^ (m.log2 - 52) * 2 ^ e
      rw [log2_mul_two_pow present, ← Nat.pow_add]
      congr 1
      omega
    rw [OnGrid, OnGrid, step, Nat.mul_dvd_mul_iff_right (Nat.two_pow_pos e)]

/-- What a quotient has beyond its whole part is at most half a step of the grid there; a tie counts
if the whole part is an even number of steps. Such a quotient is drawn back to its whole part. -/
def DrawnBack (unit num den : Nat) : Prop :=
  2 * (num % den * unit) < den * stepAt (num / den * unit) ∨
    2 * (num % den * unit) = den * stepAt (num / den * unit) ∧
      num / den * unit / stepAt (num / den * unit) % 2 = 0

section
variable {num den m e : Nat}

/-- The step at a quotient is the step at its whole part, if there is one. -/
theorem stepAt_quotient (positive : 0 < den) (present : num / den ≠ 0) (e : Nat) :
    stepAt (num * 2 ^ e / den) = stepAt (num / den * 2 ^ e) := by
  have unit_pos : 0 < 2 ^ e := Nat.two_pow_pos e
  have lower : num / den * 2 ^ e ≤ num * 2 ^ e / den := by
    rw [Nat.le_div_iff_mul_le positive, Nat.mul_right_comm]
    exact Nat.mul_le_mul_right _ (Nat.div_mul_le_self num den)
  have upper : num * 2 ^ e / den < 2 ^ ((num / den).log2 + 1) * 2 ^ e := by
    rw [Nat.div_lt_iff_lt_mul positive, Nat.mul_right_comm]
    apply Nat.mul_lt_mul_of_pos_right _ unit_pos
    exact (Nat.div_lt_iff_lt_mul positive).1 Nat.lt_log2_self
  have same : (num * 2 ^ e / den).log2 = (num / den * 2 ^ e).log2 := by
    have least := Nat.mul_le_mul_right (2 ^ e) (Nat.log2_self_le present)
    have some : num * 2 ^ e / den ≠ 0 :=
      Nat.ne_of_gt (Nat.lt_of_lt_of_le (Nat.mul_pos (Nat.pos_of_ne_zero present) unit_pos) lower)
    rw [log2_mul_two_pow present, Nat.log2_eq_iff some, Nat.add_right_comm, Nat.pow_add,
      Nat.pow_add 2 (_ + 1)]
    exact ⟨Nat.le_trans least lower, upper⟩
  unfold stepAt
  rw [same]

/-- A quotient with a whole part on the grid is rounded to that or below exactly if it is drawn
back. -/
theorem nearestOnGrid_le_whole_iff (positive : 0 < den) (held : OnGrid (num / den)) :
    nearestOnGrid (num * 2 ^ e) den ≤ num / den * 2 ^ e ↔ DrawnBack (2 ^ e) num den := by
  have parts : num * 2 ^ e = den * (num / den * 2 ^ e) + num % den * 2 ^ e := by
    rw [← Nat.mul_assoc, ← Nat.add_mul, Nat.div_add_mod]
  unfold DrawnBack
  by_cases none : num / den = 0
  · -- Below one, the question is whether the quotient is lost to zero.
    rw [none, Nat.zero_mul, Nat.mul_zero, Nat.zero_add] at parts
    have lost := (nearestOnGrid_pos_iff (n := num * 2 ^ e) positive).not
    rw [none, Nat.zero_mul, Nat.zero_div, show stepAt 0 = 1 from rfl, ← parts]
    omega
  · obtain ⟨k, steps⟩ := (onGrid_mul_two_pow_iff e).2 held
    have step_pos := stepAt_pos (num / den * 2 ^ e)
    rw [nearestOnGrid, stepAt_quotient positive none]
    generalize stepAt (num / den * 2 ^ e) = step at *
    have cell : 0 < den * step := Nat.mul_pos positive step_pos
    have middle : (2 * k + 1) * (den * step) = 2 * (den * (step * k)) + den * step := by
      rw [Nat.add_mul, Nat.one_mul, Nat.mul_assoc, Nat.mul_left_comm k, Nat.mul_comm k]
    rw [steps] at parts ⊢
    rw [Nat.mul_div_cancel_left k step_pos, Nat.mul_le_mul_left_iff step_pos,
      nearestEven_le_iff cell, middle, parts]
    omega

/-- A value of the grid after one natural and not after the next is that next one, or both are up to
`2^53`: beyond, the grid has whole numbers only. So the next one is on the grid. -/
theorem onGrid_succ_of_between {r : Nat} (grid : OnGrid r) (after : m * 2 ^ e < r)
    (within : r ≤ (m + 1) * 2 ^ e) : OnGrid (m + 1) := by
  rcases Nat.lt_or_ge m (2 ^ 53) with few | many
  · exact (onGrid_mul_two_pow_iff e).1 (onGrid_mul_two_pow few e)
  · have size : 53 + e ≤ r.log2 := by
      rw [Nat.le_log2 (Nat.ne_of_gt (Nat.lt_of_le_of_lt (Nat.zero_le _) after)), Nat.pow_add]
      exact Nat.le_trans (Nat.mul_le_mul_right _ many) (Nat.le_of_lt after)
    obtain ⟨k, rfl⟩ : 2 ^ e ∣ r := Nat.dvd_trans (Nat.pow_dvd_pow 2 (by omega)) grid
    rw [Nat.mul_comm (2 ^ e) k] at after within grid
    have lower : m < k := Nat.lt_of_mul_lt_mul_right after
    have upper : k ≤ m + 1 := Nat.le_of_mul_le_mul_right within (Nat.two_pow_pos e)
    obtain rfl : k = m + 1 := by omega
    exact (onGrid_mul_two_pow_iff e).1 grid

/-- A quotient beyond `2^53` with the next natural on the grid is rounded up: the steps there are of
two units at least, and the one before the next natural ends half a step or more before the
quotient. -/
theorem lt_nearestOnGrid_of_large (positive : 0 < den) (large : 2 ^ 53 ≤ num / den)
    (held : OnGrid (num / den + 1)) (part : ¬ den ∣ num) :
    num / den * 2 ^ e < nearestOnGrid (num * 2 ^ e) den := by
  have present : num / den ≠ 0 := by omega
  have rest : 0 < num % den := Nat.emod_pos_of_not_dvd part
  have size : 53 ≤ (num / den).log2 := (Nat.le_log2 present).2 large
  have step_eq : stepAt (num * 2 ^ e / den) = 2 ^ ((num / den).log2 + e - 52) := by
    rw [stepAt_quotient positive present, stepAt, log2_mul_two_pow present]
    rfl
  have wide : 2 * 2 ^ e ≤ stepAt (num * 2 ^ e / den) := by
    rw [step_eq, ← Nat.pow_succ']
    exact Nat.pow_le_pow_right (by decide) (by omega)
  obtain ⟨k, steps⟩ : stepAt (num * 2 ^ e / den) ∣ (num / den + 1) * 2 ^ e := by
    refine Nat.dvd_trans ?_ ((onGrid_mul_two_pow_iff e).2 held)
    rw [stepAt_quotient positive present]
    exact stepAt_dvd (log2_le_log2 (Nat.mul_le_mul_right _ (Nat.le_succ _)))
  have parts : num * 2 ^ e = den * (num / den * 2 ^ e) + num % den * 2 ^ e := by
    rw [← Nat.mul_assoc, ← Nat.add_mul, Nat.div_add_mod]
  have left : 0 < num % den * 2 ^ e := Nat.mul_pos rest (Nat.two_pow_pos e)
  have cell := cell_pos (n := num * 2 ^ e) positive
  have broad := Nat.mul_le_mul_left den wide
  rw [nearestOnGrid]
  generalize stepAt (num * 2 ^ e / den) = step at *
  rw [Nat.add_mul, Nat.one_mul] at steps
  apply Nat.lt_of_not_le
  intro back
  -- The nearest multiple would come before the one that the next natural is.
  have fewer : nearestEven (num * 2 ^ e) (den * step) < k := by
    apply Nat.lt_of_mul_lt_mul_left (a := step)
    have unit_pos : 0 < 2 ^ e := Nat.two_pow_pos e
    omega
  obtain ⟨j, rfl⟩ : ∃ j, k = j + 1 := ⟨k - 1, by omega⟩
  have middle := (nearestEven_le_iff cell).1 (Nat.le_of_lt_succ fewer)
  have next : (2 * j + 1) * (den * step) + den * step =
      2 * (den * (num / den * 2 ^ e)) + den * (2 * 2 ^ e) := by
    calc (2 * j + 1) * (den * step) + den * step = 2 * (den * (step * (j + 1))) := by ring
      _ = 2 * (den * (num / den * 2 ^ e + 2 ^ e)) := by rw [steps]
      _ = 2 * (den * (num / den * 2 ^ e)) + den * (2 * 2 ^ e) := by ring
  omega

/-- Where the next natural is on the grid, a quotient that is no natural is rounded beyond its whole
part exactly if that is large or the quotient is not drawn back to it. -/
theorem lt_nearestOnGrid_iff (positive : 0 < den) (held : OnGrid (num / den + 1))
    (part : ¬ den ∣ num) :
    num / den * 2 ^ e < nearestOnGrid (num * 2 ^ e) den ↔
      2 ^ 53 ≤ num / den ∨ ¬ DrawnBack (2 ^ e) num den := by
  rcases Nat.lt_or_ge (num / den) (2 ^ 53) with few | many
  · rw [← Nat.not_le, nearestOnGrid_le_whole_iff positive (onGrid_of_le (Nat.le_of_lt few))]
    exact (or_iff_right (Nat.not_le.2 few)).symm
  · exact iff_of_true (lt_nearestOnGrid_of_large positive many held part) (.inl many)

/-- A number of items fits into a number of units exactly if its ceiling in units does. -/
theorem ceiling_le_iff (positive : 0 < den) {n k : Nat} :
    (n + (den - 1)) / den ≤ k ↔ n ≤ k * den := by
  rw [Nat.div_le_iff_le_mul_add_pred positive, Nat.add_le_add_iff_right, Nat.mul_comm]

theorem ceiling_eq_succ_iff (positive : 0 < den) {n k : Nat} :
    (n + (den - 1)) / den = k + 1 ↔ k * den < n ∧ n ≤ (k + 1) * den := by
  have more := ceiling_le_iff positive (n := n) (k := k)
  have enough := ceiling_le_iff positive (n := n) (k := k + 1)
  omega

theorem ceiling_mul (positive : 0 < den) (k : Nat) : (k * den + (den - 1)) / den = k := by
  rw [Nat.div_eq_iff positive]
  omega

theorem ceiling_of_part (positive : 0 < den) (part : ¬ den ∣ num) :
    (num + (den - 1)) / den = num / den + 1 := by
  have rest := Nat.emod_pos_of_not_dvd part
  have below := Nat.mod_lt num positive
  have parts := Nat.div_add_mod' num den
  rw [ceiling_eq_succ_iff positive, Nat.add_mul, Nat.one_mul]
  omega

/-- The ceiling of a rounded quotient is that of the quotient exactly if that is on the grid, and
the quotient, if it is no natural and below `2^53`, is not drawn back to its whole part. -/
theorem ceil_nearestOnGrid_iff (positive : 0 < den) :
    (nearestOnGrid (num * 2 ^ e) den + (2 ^ e - 1)) / 2 ^ e = (num + (den - 1)) / den ↔
      OnGrid ((num + (den - 1)) / den) ∧
        (den ∣ num ∨ 2 ^ 53 ≤ num / den ∨ ¬ DrawnBack (2 ^ e) num den) := by
  have unit_pos : 0 < 2 ^ e := Nat.two_pow_pos e
  by_cases part : den ∣ num
  · obtain ⟨k, rfl⟩ := part
    rw [Nat.mul_comm den k, ceiling_mul positive]
    have exactly : k * 2 ^ e * den = k * den * 2 ^ e := Nat.mul_right_comm ..
    constructor
    · intro ceiling
      refine ⟨?_, .inl (Nat.dvd_mul_left den k)⟩
      cases k with
      | zero => exact Nat.dvd_zero _
      | succ k =>
        obtain ⟨lower, upper⟩ := (ceiling_eq_succ_iff unit_pos).1 ceiling
        exact onGrid_succ_of_between (onGrid_nearestOnGrid positive) lower upper
    · intro ⟨held, _⟩
      have units := (onGrid_mul_two_pow_iff e).2 held
      have lower := le_onGrid positive units (Nat.le_of_eq exactly)
      have upper := onGrid_le positive units (Nat.le_of_eq exactly.symm)
      rw [Nat.le_antisymm upper lower, ceiling_mul unit_pos]
  · rw [ceiling_of_part positive part, ceiling_eq_succ_iff unit_pos]
    constructor
    · intro ⟨lower, upper⟩
      have held := onGrid_succ_of_between (onGrid_nearestOnGrid positive) lower upper
      exact ⟨held, .inr ((lt_nearestOnGrid_iff positive held part).1 lower)⟩
    · intro ⟨held, reached⟩
      refine ⟨(lt_nearestOnGrid_iff positive held part).2 (reached.resolve_left part), ?_⟩
      apply onGrid_le positive ((onGrid_mul_two_pow_iff e).2 held)
      rw [Nat.mul_right_comm]
      have next := (Nat.div_lt_iff_lt_mul positive).1 (Nat.lt_succ_self (num / den))
      exact Nat.mul_le_mul_right _ (Nat.le_of_lt next)

/-- Up to `2^53` a quotient that is not lost to zero is not drawn back: it is at least one part of
the denominator beyond its whole part, and half a step is less. -/
theorem not_drawnBack_of_few (few : num ≤ 2 ^ 53) (fine : 52 ≤ e)
    (seen : den < 2 * (num * 2 ^ e)) (part : ¬ den ∣ num) : ¬ DrawnBack (2 ^ e) num den := by
  have rest := Nat.emod_pos_of_not_dvd part
  have parts := Nat.div_add_mod' num den
  suffices den * stepAt (num / den * 2 ^ e) < 2 * (num % den * 2 ^ e) by
    unfold DrawnBack
    omega
  by_cases none : num / den = 0
  · rw [none, Nat.zero_mul, Nat.zero_add] at parts
    rw [none, Nat.zero_mul, show stepAt 0 = 1 from rfl, parts]
    omega
  · have least := Nat.log2_self_le none
    have step : stepAt (num / den * 2 ^ e) = 2 ^ (num / den).log2 * 2 ^ (e - 52) := by
      rw [stepAt, log2_mul_two_pow none, ← Nat.pow_add]
      show 2 ^ _ = 2 ^ _
      congr 1
      omega
    have unit : 2 ^ 53 * 2 ^ (e - 52) = 2 * 2 ^ e := by
      rw [← Nat.pow_add, ← Nat.pow_succ']
      congr 1
      omega
    calc den * stepAt (num / den * 2 ^ e)
        = den * 2 ^ (num / den).log2 * 2 ^ (e - 52) := by rw [step, Nat.mul_assoc]
      _ ≤ den * (num / den) * 2 ^ (e - 52) :=
          Nat.mul_le_mul_right _ (Nat.mul_le_mul_left den least)
      _ < 2 ^ 53 * 2 ^ (e - 52) := by
          apply Nat.mul_lt_mul_of_pos_right _ (Nat.two_pow_pos _)
          rw [Nat.mul_comm den]
          omega
      _ = 2 * 2 ^ e := unit
      _ ≤ 2 * (num % den * 2 ^ e) := Nat.mul_le_mul_left 2 (Nat.le_mul_of_pos_left _ rest)

/-- Up to `2^53` the ceiling of a quotient is that of the rounded quotient, if that is not zero. -/
theorem ceil_nearestOnGrid (positive : 0 < den) (few : num ≤ 2 ^ 53) (fine : 52 ≤ e)
    (seen : den < 2 * (num * 2 ^ e)) :
    (nearestOnGrid (num * 2 ^ e) den + (2 ^ e - 1)) / 2 ^ e = (num + (den - 1)) / den := by
  have held : OnGrid ((num + (den - 1)) / den) := by
    apply onGrid_of_le (Nat.le_trans _ few)
    exact (ceiling_le_iff positive).2 (Nat.le_mul_of_pos_right num positive)
  refine (ceil_nearestOnGrid_iff positive).2 ⟨held, ?_⟩
  by_cases part : den ∣ num
  · exact .inl part
  · exact .inr (.inr (not_drawnBack_of_few few fine seen part))

end

/-! ## The format -/

/-- The first quotient that is rounded beyond the format: the middle between the greatest finite
value and the next power of two. -/
def roundingLimit : Nat := Nat.pow 2 1024 - Nat.pow 2 970

/-- The step between the greatest finite values. -/
def lastStep : Nat := Nat.pow 2 2045

/-! Powers of that size are better not computed in a proof, so each exponent is kept apart. -/

theorem unitsPerOne_eq {e : Nat} (h : e = 1074) : unitsPerOne = 2 ^ e := by
  unfold unitsPerOne
  rw [← h]
  rfl

theorem lastStep_eq {e : Nat} (h : e = 2045) : lastStep = 2 ^ e := by
  unfold lastStep
  rw [← h]
  rfl

theorem unitsLimit_eq : unitsLimit = 2 ^ 53 * lastStep := by
  decide +kernel

theorem roundingLimit_eq :
    2 * (roundingLimit * unitsPerOne) = (2 * (2 ^ 53 - 1) + 1) * lastStep := by
  decide +kernel

section
variable {num den : Nat}

/-- A quotient is rounded to zero exactly if it is at most half a unit. -/
theorem roundedUnits_pos_iff (positive : 0 < den) :
    0 < roundedUnits num den ↔ den < 2 * (num * unitsPerOne) :=
  nearestOnGrid_pos_iff positive

/-- A rounded quotient is within the format exactly below the limit. -/
theorem representable_roundedUnits_iff (positive : 0 < den) :
    Representable (roundedUnits num den) ↔ num < roundingLimit * den := by
  have grid : stepAt (roundedUnits num den) ∣ roundedUnits num den := onGrid_nearestOnGrid positive
  suffices roundedUnits num den < unitsLimit ↔ num < roundingLimit * den from
    ⟨fun h => this.1 h.1, fun h => ⟨this.2 h, grid⟩⟩
  obtain ⟨e, he⟩ : ∃ e, e = 2045 := ⟨_, rfl⟩
  have middle := roundingLimit_eq
  rw [lastStep_eq he] at middle
  have scaled : 2 * (roundingLimit * den * unitsPerOne) =
      (2 * (2 ^ 53 - 1) + 1) * (den * 2 ^ e) := by
    rw [Nat.mul_right_comm roundingLimit den unitsPerOne,
      ← Nat.mul_assoc 2 (roundingLimit * unitsPerOne) den, middle,
      Nat.mul_assoc _ (2 ^ e) den, Nat.mul_comm (2 ^ e) den]
  rw [unitsLimit_eq, lastStep_eq he, roundedUnits_eq, nearestOnGrid_lt_iff positive, ← scaled,
    Nat.mul_lt_mul_left (by decide), Nat.mul_lt_mul_right unitsPerOne_pos]

/-- The ceiling of a rounded quotient is that of the quotient exactly if 53 significant bits can
hold it and the quotient, if it is no natural and below `2^53`, is not drawn back to its whole
part. -/
theorem ceil_roundedUnits_iff (positive : 0 < den) :
    (roundedUnits num den + (unitsPerOne - 1)) / unitsPerOne = (num + (den - 1)) / den ↔
      OnGrid ((num + (den - 1)) / den) ∧
        (den ∣ num ∨ 2 ^ 53 ≤ num / den ∨ ¬ DrawnBack unitsPerOne num den) := by
  obtain ⟨e, he⟩ : ∃ e, e = 1074 := ⟨_, rfl⟩
  rw [roundedUnits_eq, unitsPerOne_eq he]
  exact ceil_nearestOnGrid_iff positive

/-- Up to `2^53` the ceiling of a quotient is that of the rounded quotient, if that is not zero. -/
theorem ceil_roundedUnits (positive : 0 < den) (few : num ≤ 2 ^ 53)
    (seen : den < 2 * (num * unitsPerOne)) :
    (roundedUnits num den + (unitsPerOne - 1)) / unitsPerOne = (num + (den - 1)) / den := by
  obtain ⟨e, he⟩ : ∃ e, e = 1074 := ⟨_, rfl⟩
  rw [roundedUnits_eq]
  rw [unitsPerOne_eq he] at seen ⊢
  exact ceil_nearestOnGrid positive few (by omega) seen

end

end Listing
