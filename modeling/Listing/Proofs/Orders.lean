import Mathlib
import Listing.Proofs.Verdicts

/-!
# One order

Whether the five comparisons of a value are one order: exactly one of less, equal and greater
answers yes, and the other two are their unions.

* **numbers** are (`oneOrder_of_numbers`): they are ordered by value, and where equality goes by
  texts the texts are those of equal numbers;
* **texts** are exactly if the text that orders the value and the one that equates it agree about
  the other text (`oneOrder_of_texts_iff`). Only a moment has two: it is ordered by the text with
  `T` and equated by the one with a space;
* **integers that are too long to be written** stop every comparison but those with integers.

`oneOrder_iff` puts the three together.
-/

namespace Listing

/-- The comparisons of a value with another all answer, and as one order. -/
def OneOrder (field : Text) (value actual : Value) : Prop :=
  ∃ less equal greater : Bool,
    Operator.lessThan.verdict field value actual = .ok less ∧
    Operator.equal.verdict field value actual = .ok equal ∧
    Operator.greaterThan.verdict field value actual = .ok greater ∧
    [less, equal, greater].count true = 1 ∧
    Operator.greaterOrEqual.verdict field value actual = .ok (greater || equal) ∧
    Operator.lessOrEqual.verdict field value actual = .ok (less || equal)

/-- A text, an integer, or a binary number that is not NaN. -/
def Value.isComparable : Value → Bool
  | .text _ | .number (.whole _) => true
  | .number (.real x) => x ≠ .nan
  | _ => false

/-- A value of a record that is comparable, a date or a moment. -/
def Value.isOrdered : Value → Bool
  | .date _ | .moment _ => true
  | v => v.isComparable

theorem Value.isNumber_iff {v : Value} : v.isNumber = true ↔ ∃ n, v = .number n := by
  cases v <;> simp [isNumber]

/-- A value is a moment and another one is one of its two texts, with `T` or with a space. -/
def Value.NamesMoment (value : Value) : Value → Prop
  | .moment iso => spacedMoment iso ≠ iso ∧
      (value.comparedText = iso ∨ value.comparedText = spacedMoment iso)
  | _ => False

/-! ## Numbers -/

section
variable (field : Text)

/-- Numbers are in one order as soon as equality answers by their values. -/
theorem oneOrder_of_numbers {a b : Number} (left : a ≠ .real .nan) (right : b ≠ .real .nan)
    (equal : Operator.equal.verdict field (.number b) (.number a) = .ok (a.same b)) :
    OneOrder field (.number b) (.number a) := by
  refine ⟨a.less b, a.same b, b.less a, ?_, equal, ?_, Number.count_order left right, ?_, ?_⟩
  · exact verdict_order_of_numbers field .lessThan (by decide) a b
  · exact verdict_order_of_numbers field .greaterThan (by decide) a b
  · rw [verdict_order_of_numbers field .greaterOrEqual (by decide), Number.same_comm]
    rfl
  · exact verdict_order_of_numbers field .lessOrEqual (by decide) a b

/-- Equality of an integer and a binary number goes by texts, and answers as their values do. -/
theorem verdict_equal_of_mixed {actual value : Value} {same : Bool}
    (present : actual.isNull = false) (given : value.isNull = false)
    (kinds : actual.kind ≠ value.kind)
    (texts : actual.comparedText = value.comparedText ↔ same = true) :
    Operator.equal.verdict field value actual = onTexts actual value same := by
  rw [verdict_equal_of_texts field present given (.inr (.inr kinds))]
  congr 1
  rw [Bool.eq_iff_iff, decide_eq_true_iff, texts]

/-! ## Texts -/

/-- An answer to equality fits the order of two texts exactly if it is theirs. -/
theorem fits_order_iff (s t : Text) (equal : Bool) :
    ([precedes s t, equal, precedes t s].count true = 1 ∧
      (!precedes s t) = (precedes t s || equal) ∧ (!precedes t s) = (precedes s t || equal)) ↔
      equal = decide (s = t) := by
  by_cases same : s = t
  · subst same
    rw [precedes_self]
    cases equal <;> simp
  · rw [precedes_total same]
    cases precedes s t <;> cases equal <;> simp [same]

/-- Values that are compared by texts are in one order exactly if they can be written and the text
that orders the first agrees with the text that equates it. -/
theorem oneOrder_of_texts_iff {actual value : Value} (present : actual.isNull = false)
    (given : value.isNull = false) (apart : actual.isNumber = false ∨ value.isNumber = false)
    (equal : Operator.equal.verdict field value actual =
      onTexts actual value (actual.comparedText = value.comparedText)) :
    OneOrder field value actual ↔ (actual.writable = true ∧ value.writable = true) ∧
      (actual.comparedText = value.comparedText ↔ actual.orderText = value.comparedText) := by
  have order (op : Operator) (h : op.comparison ∈ Comparison.orders) :=
    verdict_order_of_texts field op h present given apart
  have agrees : (actual.comparedText = value.comparedText ↔ actual.orderText = value.comparedText) ↔
      decide (actual.comparedText = value.comparedText) =
        decide (actual.orderText = value.comparedText) := by
    rw [decide_eq_decide]
  unfold OneOrder
  rw [equal, order .lessThan (by decide), order .greaterThan (by decide),
    order .greaterOrEqual (by decide), order .lessOrEqual (by decide), agrees, ← fits_order_iff]
  constructor
  · rintro ⟨less, same, greater, hless, hsame, hgreater, one, hmore, hfewer⟩
    obtain ⟨written, rfl⟩ := onTexts_eq_ok_iff.1 hless
    obtain ⟨-, rfl⟩ := onTexts_eq_ok_iff.1 hsame
    obtain ⟨-, rfl⟩ := onTexts_eq_ok_iff.1 hgreater
    exact ⟨written, one, (onTexts_eq_ok_iff.1 hmore).2, (onTexts_eq_ok_iff.1 hfewer).2⟩
  · rintro ⟨written, one, more, fewer⟩
    refine ⟨_, _, _, onTexts_eq_ok_iff.2 ⟨written, rfl⟩, onTexts_eq_ok_iff.2 ⟨written, rfl⟩,
      onTexts_eq_ok_iff.2 ⟨written, rfl⟩, one, onTexts_eq_ok_iff.2 ⟨written, more⟩,
      onTexts_eq_ok_iff.2 ⟨written, fewer⟩⟩

end

/-! ## All values -/

/-- Only a moment is ordered by another text than it is equated by. -/
theorem texts_agree_iff (value actual : Value) :
    (actual.comparedText = value.comparedText ↔ actual.orderText = value.comparedText) ↔
      ¬ value.NamesMoment actual := by
  cases actual with
  | moment iso =>
    show (Value.spacedMoment iso = value.comparedText ↔ iso = value.comparedText) ↔
      ¬ (Value.spacedMoment iso ≠ iso ∧
        (value.comparedText = iso ∨ value.comparedText = Value.spacedMoment iso))
    grind
  | null | number | text | list | dict | object | date => exact iff_of_true Iff.rfl not_false

section
variable (field : Text) {a b : Number}

/-- Integers are in one order, of any length. -/
theorem oneOrder_of_whole (i j : Int) : OneOrder field (.int j) (.int i) := by
  have equal : Operator.equal.verdict field (.int j) (.int i) = .ok ((Value.int i).same (.int j)) :=
    verdict_equal_of_kind field rfl rfl rfl rfl rfl
  rw [Value.same_number] at equal
  exact oneOrder_of_numbers field (by simp) (by simp) equal

theorem oneOrder_of_real {x y : Binary64} (left : Number.real x ≠ .real .nan)
    (right : Number.real y ≠ .real .nan) :
    OneOrder field (.number (.real y)) (.number (.real x)) := by
  have equal : Operator.equal.verdict field (.number (.real y)) (.number (.real x)) =
      .ok ((Value.number (.real x)).same (.number (.real y))) :=
    verdict_equal_of_kind field rfl rfl rfl rfl rfl
  rw [Value.same_number] at equal
  exact oneOrder_of_numbers field left right equal

/-- An integer and a binary number are in one order exactly if the integer can be written, since
their equality goes by texts. -/
theorem oneOrder_of_mixed_iff (left : a ≠ .real .nan) (right : b ≠ .real .nan)
    (kinds : (Value.number a).kind ≠ (Value.number b).kind)
    (texts : (Value.number a).comparedText = (Value.number b).comparedText ↔ a.same b = true) :
    OneOrder field (.number b) (.number a) ↔
      (Value.number a).writable = true ∧ (Value.number b).writable = true := by
  have equal := verdict_equal_of_mixed field rfl rfl kinds texts
  constructor
  · rintro ⟨less, same, greater, -, answered, -⟩
    exact (onTexts_eq_ok_iff.1 (equal.symm.trans answered)).1
  · rintro ⟨written, short⟩
    exact oneOrder_of_numbers field left right (equal.trans (onTexts_of_writable written short _))

end

/-- Values of one kind that are no numbers are texts. -/
theorem Value.eq_texts_of_kind {actual value : Value} (clause : value.isComparable = true)
    (kinds : actual.kind = value.kind) (apart : actual.isNumber = false ∨ value.isNumber = false) :
    ∃ t u, actual = .text t ∧ value = .text u := by
  cases value with
  | text u =>
    obtain ⟨t, rfl⟩ := eq_text_of_kind kinds
    exact ⟨t, u, rfl, rfl⟩
  | number n =>
    cases n with
    | flag => contradiction
    | whole =>
      obtain ⟨i, rfl⟩ := eq_whole_of_kind kinds
      rcases apart with h | h <;> contradiction
    | real =>
      obtain ⟨x, rfl⟩ := eq_real_of_kind kinds
      rcases apart with h | h <;> contradiction
  | null | list | dict | object | date | moment => contradiction

theorem Value.real_ne_nan {x : Binary64} (h : (number (.real x)).isComparable = true) :
    Number.real x ≠ .real .nan := by
  intro same
  rw [Number.real.inj same] at h
  contradiction

/-- Unless both values are numbers, the comparisons go by texts. -/
theorem oneOrder_of_unlike_iff (field : Text) {actual value : Value}
    (record : actual.isOrdered = true) (clause : value.isComparable = true)
    (apart : actual.isNumber = false ∨ value.isNumber = false) :
    OneOrder field value actual ↔ (actual.writable = true ∧ value.writable = true) ∧
      ¬ value.NamesMoment actual := by
  have present : actual.isNull = false := by
    cases actual with
    | text | number | date | moment => rfl
    | null | list | dict | object => contradiction
  have given : value.isNull = false := by
    cases value with
    | text | number => rfl
    | null | list | dict | object | date | moment => contradiction
  rw [← texts_agree_iff]
  apply oneOrder_of_texts_iff field present given apart
  by_cases kinds : actual.kind = value.kind
  · obtain ⟨t, u, rfl, rfl⟩ := Value.eq_texts_of_kind clause kinds apart
    have equal : Operator.equal.verdict field (.text u) (.text t) =
        .ok ((Value.text t).same (.text u)) :=
      verdict_equal_of_kind field rfl rfl rfl rfl rfl
    rw [equal, onTexts_of_writable rfl rfl, Value.same]
    rfl
  · exact verdict_equal_of_texts field present given (.inr (.inr kinds))

/-- The five comparisons of a text, a number, a date or a moment with a text or a number are one
order exactly if the numbers among them can be written where texts are needed, and the other value
is none of the two texts of a moment: it is neither less nor equal nor greater than the one with a
`T`, and both equal to and greater than the one with a space. -/
theorem oneOrder_iff (field : Text) {actual value : Value} (record : actual.isOrdered = true)
    (clause : value.isComparable = true) :
    OneOrder field value actual ↔
      ((actual.kind = .whole ∧ value.kind = .whole) ∨
        (actual.writable = true ∧ value.writable = true)) ∧ ¬ value.NamesMoment actual := by
  by_cases apart : actual.isNumber = false ∨ value.isNumber = false
  · have kinds : ¬ (actual.kind = .whole ∧ value.kind = .whole) := by
      rintro ⟨left, right⟩
      obtain ⟨i, rfl⟩ := Value.eq_whole_of_kind left
      obtain ⟨j, rfl⟩ := Value.eq_whole_of_kind right
      rcases apart with h | h <;> contradiction
    rw [oneOrder_of_unlike_iff field record clause apart, or_iff_right kinds]
  · simp only [not_or, Bool.not_eq_false] at apart
    obtain ⟨a, rfl⟩ := Value.isNumber_iff.1 apart.1
    obtain ⟨b, rfl⟩ := Value.isNumber_iff.1 apart.2
    have number : ¬ Value.NamesMoment (.number b) (.number a) := id
    rw [and_iff_left number]
    cases a with
    | flag => contradiction
    | whole i =>
      cases b with
      | flag => contradiction
      | whole j => exact iff_of_true (oneOrder_of_whole field i j) (.inl ⟨rfl, rfl⟩)
      | real y =>
        rw [or_iff_right (by simp [Value.kind])]
        exact oneOrder_of_mixed_iff field (by simp) (Value.real_ne_nan clause)
          (by simp [Value.kind]) intText_eq_toText_iff
    | real x =>
      cases b with
      | flag => contradiction
      | whole j =>
        rw [or_iff_right (by simp [Value.kind])]
        refine oneOrder_of_mixed_iff field (Value.real_ne_nan record) (by simp)
          (by simp [Value.kind]) ?_
        rw [Number.same_comm, ← intText_eq_toText_iff]
        exact eq_comm
      | real y =>
        have order := oneOrder_of_real field (Value.real_ne_nan record) (Value.real_ne_nan clause)
        exact iff_of_true order (.inr ⟨rfl, rfl⟩)

/-- A moment and a day. -/
theorem oneOrder_moment_day : (Value.moment "2024-06-01T00:00:00").isOrdered = true ∧
    (Value.text "2024-01-01").isComparable = true ∧
    OneOrder "createdAt" (.text "2024-01-01") (.moment "2024-06-01T00:00:00") := by
  refine ⟨rfl, rfl, (oneOrder_iff "createdAt" rfl rfl).2 ⟨.inr ⟨rfl, rfl⟩, ?_⟩⟩
  rintro ⟨-, same | same⟩
  · exact absurd same (by decide)
  · exact absurd same (by decide)

/-- A moment is neither less nor equal nor greater than its own text. -/
theorem oneOrder_fails_moment : (Value.moment "2024-06-01T00:00:00").isOrdered = true ∧
    (Value.text "2024-06-01T00:00:00").isComparable = true ∧
    ¬ OneOrder "createdAt" (.text "2024-06-01T00:00:00") (.moment "2024-06-01T00:00:00") := by
  have less : Operator.lessThan.verdict "createdAt" (.text "2024-06-01T00:00:00")
      (.moment "2024-06-01T00:00:00") = .ok false := by decide +kernel
  have equal : Operator.equal.verdict "createdAt" (.text "2024-06-01T00:00:00")
      (.moment "2024-06-01T00:00:00") = .ok false := by decide +kernel
  have greater : Operator.greaterThan.verdict "createdAt" (.text "2024-06-01T00:00:00")
      (.moment "2024-06-01T00:00:00") = .ok false := by decide +kernel
  refine ⟨rfl, rfl, ?_⟩
  rintro ⟨l, e, g, hl, he, hg, one, -⟩
  rw [← Except.ok.inj (less.symm.trans hl), ← Except.ok.inj (equal.symm.trans he),
    ← Except.ok.inj (greater.symm.trans hg)] at one
  exact absurd one (by decide)

end Listing
