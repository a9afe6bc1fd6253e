import Mathlib
import Listing.Proofs.Agreement
import Listing.Proofs.Positions

/-!
# Verdicts

What a clause of the grammar answers for a value in memory, with the one way in which it can stop:
an integer that is too long to be written has no text.

* **one equation for each family**: a test for presence always answers, an equality and an order
  answer by values or by texts, and a search goes by the texts in lower case (`verdict_isNull`,
  `verdict_equal`, `verdict_order_of_numbers`, `verdict_order_of_texts`, `verdict_search`);
* **answers**: for nothing, and for two values that can be written, every operator has a verdict
  (`Operator.verdict_of_answerable`);
* **one logic**: each negated operator matches exactly what its positive one does not, the starred
  spellings match as the plain ones, and equality, the two edges and containment are in the order
  of their strength, exactly where every operator has a verdict (`consistent_iff`). Two equal
  integers that cannot be written are equal, and nothing is found in them.
-/

namespace Listing

/-- The verdict of an operator's clause on a value. -/
def Operator.verdict (op : Operator) (field : Text) (value actual : Value) : Except Failure Bool :=
  (FilterClause.ofOperator field op value).evaluate actual

/-- Every operator has a verdict: on nothing, and on values with texts. -/
def Answerable (value actual : Value) : Prop :=
  actual.isNull = true ∨ actual.writable = true ∧ value.writable = true

section
variable (field : Text) (value actual : Value)

theorem Operator.verdict_eq (op : Operator) : op.verdict field value actual =
    verdictOn ((FilterClause.ofOperator field op value).needsTextsFor op.comparison actual) actual
      value ((FilterClause.ofOperator field op value).holdsFor op.comparison actual) :=
  evaluate_ofOperator field op value actual

theorem needsTextsFor_of_null (c : FilterClause) (kind : Comparison) {actual : Value}
    (null : actual.isNull = true) : c.needsTextsFor kind actual = false := by
  cases kind <;>
    simp [FilterClause.needsTextsFor, Value.equatedByTexts, Value.orderedByTexts, null]

theorem Operator.verdict_of_answerable {value actual : Value} (answerable : Answerable value actual)
    (op : Operator) : op.verdict field value actual =
      .ok ((FilterClause.ofOperator field op value).holdsFor op.comparison actual) := by
  rw [verdict_eq, verdictOn]
  rcases answerable with null | ⟨written, short⟩
  · rw [needsTextsFor_of_null _ _ null]
    rfl
  · rw [onTexts_of_writable written short]
    exact ite_self _

theorem verdict_isNull : Operator.isNull.verdict field value actual = .ok actual.isNull :=
  Operator.verdict_eq field value actual .isNull

theorem verdict_isNotNull : Operator.isNotNull.verdict field value actual = .ok !actual.isNull :=
  Operator.verdict_eq field value actual .isNotNull

/-- Equality needs texts for truth values and for values of two kinds. -/
theorem verdict_equal : Operator.equal.verdict field value actual = actual.equalVerdict value :=
  Operator.verdict_eq field value actual .equal

/-- Unequal is the opposite of equal, and needs the same texts. -/
theorem verdict_notEqual : Operator.notEqual.verdict field value actual =
    (Operator.equal.verdict field value actual).map (!·) := by
  rw [verdict_equal, Value.equalVerdict, map_verdictOn]
  exact Operator.verdict_eq field value actual .notEqual

end

section
variable {value actual : Value} (field : Text)

/-- Values of one kind are equal as they are. -/
theorem verdict_equal_of_kind (present : actual.isNull = false) (given : value.isNull = false)
    (plain : actual.isFlag = false) (unflagged : value.isFlag = false)
    (kind : actual.kind = value.kind) :
    Operator.equal.verdict field value actual = .ok (actual.same value) := by
  rw [verdict_equal]
  simp [Value.equalVerdict, verdictOn, Value.equatedByTexts, Value.equals, present, given, plain,
    unflagged, kind]

/-- Truth values and values of two kinds are equal by their texts. -/
theorem verdict_equal_of_texts (present : actual.isNull = false) (given : value.isNull = false)
    (apart : actual.isFlag = true ∨ value.isFlag = true ∨ actual.kind ≠ value.kind) :
    Operator.equal.verdict field value actual =
      onTexts actual value (actual.comparedText = value.comparedText) := by
  have needed : actual.equatedByTexts value false = true := by
    simpa [Value.equatedByTexts, present, given, or_assoc] using apart
  have verdict : actual.equals value false = decide (actual.comparedText = value.comparedText) := by
    unfold Value.equals Value.foldedText
    rcases apart with flag | flag | kinds
    · simp [present, given, flag]
    · simp [present, given, flag]
    · simp [present, given, kinds]
  rw [verdict_equal, Value.equalVerdict, needed, verdict]
  rfl

/-- Numbers are in the order of their values. -/
theorem verdict_order_of_numbers (op : Operator) (order : op.comparison ∈ Comparison.orders)
    (a b : Number) :
    op.verdict field (.number b) (.number a) = .ok (op.comparison.holdsOfNumbers a b) := by
  rw [Operator.verdict_eq, needsTextsFor_order _ order, holdsFor_order _ order]
  rfl

/-- Other values are in the order of their texts. -/
theorem verdict_order_of_texts (op : Operator) (order : op.comparison ∈ Comparison.orders)
    (present : actual.isNull = false) (given : value.isNull = false)
    (apart : actual.isNumber = false ∨ value.isNumber = false) :
    op.verdict field value actual =
      onTexts actual value (op.comparison.holdsOfTexts actual.orderText value.comparedText) := by
  have needed : actual.orderedByTexts value = true := by
    rcases apart with apart | apart <;> simp [Value.orderedByTexts, present, given, apart]
  have verdict : op.comparison.holds actual value =
      op.comparison.holdsOfTexts actual.orderText value.comparedText := by
    unfold Comparison.holds
    split
    · exact absurd present (by decide)
    · exact absurd given (by decide)
    · simp [Value.isNumber] at apart
    · rfl
  rw [Operator.verdict_eq, needsTextsFor_order _ order, holdsFor_order _ order]
  exact (if_pos needed).trans (congrArg _ verdict)

variable {op : Operator}

/-- A search goes by the texts in lower case; in what is not there it finds nothing. -/
theorem verdict_search (textual : op.comparison ∈ Comparison.textual) (value actual : Value) :
    op.verdict field value actual =
      if actual.isNull then .ok op.negated
      else onTexts actual value (op.negated !=
        op.comparison.finds (lower value.comparedText) (lower actual.comparedText)) := by
  have caseless := op.textual_ignoresCase textual
  rw [Operator.verdict_eq, needsTextsFor_textual _ textual, holdsFor_textual _ textual]
  cases absent : actual.isNull with
  | true => simp [FilterClause.ofOperator, verdictOn]
  | false => simp [FilterClause.ofOperator, caseless, Value.foldedText, verdictOn]

theorem verdict_search_of_present (textual : op.comparison ∈ Comparison.textual)
    (present : actual.isNull = false) :
    op.verdict field value actual = onTexts actual value (op.negated !=
      op.comparison.finds (lower value.comparedText) (lower actual.comparedText)) := by
  rw [verdict_search field textual, present]
  rfl

/-- Two operators that look for a text in the same way, one of them negated. -/
theorem verdict_opposite (textual : op.comparison ∈ Comparison.textual) (other : Operator)
    (way : other.comparison = op.comparison) (sign : other.negated = !op.negated)
    (value actual : Value) :
    other.verdict field value actual = (op.verdict field value actual).map (!·) := by
  rw [verdict_search field textual, verdict_search field (way ▸ textual), way, sign]
  split
  · rfl
  · unfold onTexts
    split
    · simp [Except.map]
    · rfl

/-- Two spellings of one search. -/
theorem verdict_spelling (textual : op.comparison ∈ Comparison.textual) (other : Operator)
    (way : other.comparison = op.comparison) (sign : other.negated = op.negated)
    (value actual : Value) :
    other.verdict field value actual = op.verdict field value actual := by
  rw [verdict_search field textual, verdict_search field (way ▸ textual), way, sign]

end

/-! ## The logic of the operators -/

/-- A text, a number or a truth value. -/
def Value.isPlain : Value → Bool
  | .text _ | .number _ => true
  | _ => false

namespace Operator

/-- The negated operators, each with its positive one. -/
def opposites : List (Operator × Operator) :=
  [(notEqual, equal), (isNotNull, isNull), (notContains, contains), (notStartsWith, startsWith),
   (notEndsWith, endsWith)]

/-- The starred spellings, each with the plain one. -/
def spellings : List (Operator × Operator) :=
  [(containsStarred, contains), (startsWithStarred, startsWith)]

end Operator

namespace Comparison

variable {kind : Comparison} {needle text : Text}

theorem finds_self (textual : kind ∈ textual) (t : Text) : kind.finds t t = true := by
  cases kind with
  | contains => exact (occursIn_iff t t).2 (List.infix_refl t)
  | startsWith => exact List.isPrefixOf_iff_prefix.2 (List.prefix_refl t)
  | endsWith => exact List.isSuffixOf_iff_suffix.2 (List.suffix_refl t)
  | greaterThan | greaterOrEqual | lessThan | lessOrEqual | equal | notEqual | isNull | isNotNull =>
    exact absurd textual (by decide)

/-- What stands at one place of a text stands somewhere in it. -/
theorem contains_of_finds (textual : kind ∈ textual) (found : kind.finds needle text = true) :
    Comparison.contains.finds needle text = true := by
  cases kind with
  | contains => exact found
  | startsWith => exact (occursIn_iff _ _).2 (List.isPrefixOf_iff_prefix.1 found).isInfix
  | endsWith => exact (occursIn_iff _ _).2 (List.isSuffixOf_iff_suffix.1 found).isInfix
  | greaterThan | greaterOrEqual | lessThan | lessOrEqual | equal | notEqual | isNull | isNotNull =>
    exact absurd textual (by decide)

end Comparison

theorem Value.eq_text_of_kind {v : Value} (h : v.kind = .text) : ∃ t, v = .text t := by
  cases v with
  | text t => exact ⟨t, rfl⟩
  | number n => cases n <;> contradiction
  | null | list | dict | object | date | moment => contradiction

theorem Value.eq_whole_of_kind {v : Value} (h : v.kind = .whole) : ∃ i, v = .int i := by
  cases v with
  | number n =>
    cases n with
    | whole i => exact ⟨i, rfl⟩
    | flag | real => contradiction
  | null | text | list | dict | object | date | moment => contradiction

theorem Value.eq_real_of_kind {v : Value} (h : v.kind = .real) : ∃ x, v = .number (.real x) := by
  cases v with
  | number n =>
    cases n with
    | real x => exact ⟨x, rfl⟩
    | flag | whole => contradiction
  | null | text | list | dict | object | date | moment => contradiction

/-- Equal values of one kind have one text, if they are texts or numbers. -/
theorem Value.comparedText_of_same {actual value : Value} (plain : value.isPlain = true)
    (unflagged : value.isFlag = false) (kind : actual.kind = value.kind)
    (same : actual.same value = true) : actual.comparedText = value.comparedText := by
  cases value with
  | text t =>
    obtain ⟨u, rfl⟩ := eq_text_of_kind kind
    have equal : u = t := by simpa [Value.same] using same
    rw [equal]
  | number n =>
    cases n with
    | flag b => contradiction
    | whole i =>
      obtain ⟨j, rfl⟩ := eq_whole_of_kind kind
      rw [same_number, Number.same_whole] at same
      rw [of_decide_eq_true same]
    | real x =>
      obtain ⟨y, rfl⟩ := eq_real_of_kind kind
      rw [same_number] at same
      exact toText_real_of_same same
  | null | list | dict | object | date | moment => contradiction

section
variable {value actual : Value} (field : Text)

/-- What equals a plain value has its text. -/
theorem comparedText_of_equal (plain : value.isPlain = true) (present : actual.isNull = false)
    (equal : Operator.equal.verdict field value actual = .ok true) :
    actual.comparedText = value.comparedText := by
  have given : value.isNull = false := by
    cases value with
    | text | number => rfl
    | null | list | dict | object | date | moment => contradiction
  by_cases apart : actual.isFlag = true ∨ value.isFlag = true ∨ actual.kind ≠ value.kind
  · rw [verdict_equal_of_texts field present given apart] at equal
    exact of_decide_eq_true (onTexts_eq_ok_iff.1 equal).2
  · simp only [not_or, Bool.not_eq_true, ne_eq, not_not] at apart
    obtain ⟨unflagged, unflagged', kind⟩ := apart
    rw [verdict_equal_of_kind field present given unflagged unflagged' kind] at equal
    exact Value.comparedText_of_same plain unflagged' kind (Except.ok.inj equal)

variable {op : Operator}

/-- What equals is found at every place that a search looks at. -/
theorem search_of_equal (textual : op.comparison ∈ Comparison.textual)
    (positive : op.negated = false) (plain : value.isPlain = true)
    (present : actual.isNull = false)
    (equal : Operator.equal.verdict field value actual = .ok true) :
    op.verdict field value actual = onTexts actual value true := by
  rw [verdict_search_of_present field textual present, positive,
    comparedText_of_equal field plain present equal, Comparison.finds_self textual]
  rfl

/-- What is found at one place is contained. -/
theorem contains_of_search (textual : op.comparison ∈ Comparison.textual)
    (positive : op.negated = false) (present : actual.isNull = false)
    (found : op.verdict field value actual = .ok true) :
    Operator.contains.verdict field value actual = .ok true := by
  rw [verdict_search_of_present field textual present, positive, Bool.false_bne] at found
  obtain ⟨⟨written, short⟩, found⟩ := onTexts_eq_ok_iff.1 found
  rw [verdict_search_of_present field (by decide) present, onTexts_of_writable written short]
  exact congrArg Except.ok ((Bool.false_bne _).trans (Comparison.contains_of_finds textual found))

end

section
variable (field : Text) (value actual : Value)

theorem contains_textual : Operator.contains.comparison ∈ Comparison.textual := by
  decide

theorem startsWith_textual : Operator.startsWith.comparison ∈ Comparison.textual := by
  decide

theorem endsWith_textual : Operator.endsWith.comparison ∈ Comparison.textual := by
  decide

/-- A negated operator answers the opposite of its positive one, and stops where that stops. -/
theorem verdict_opposites : ∀ pair ∈ Operator.opposites,
    pair.1.verdict field value actual = (pair.2.verdict field value actual).map (!·) := by
  intro pair listed
  simp only [Operator.opposites, List.mem_cons, List.not_mem_nil, or_false] at listed
  rcases listed with rfl | rfl | rfl | rfl | rfl
  · exact verdict_notEqual field value actual
  · rw [verdict_isNotNull, verdict_isNull]
    rfl
  · exact verdict_opposite field contains_textual .notContains rfl rfl value actual
  · exact verdict_opposite field startsWith_textual .notStartsWith rfl rfl value actual
  · exact verdict_opposite field endsWith_textual .notEndsWith rfl rfl value actual

/-- A starred spelling answers as the plain one. -/
theorem verdict_spellings : ∀ pair ∈ Operator.spellings,
    pair.1.verdict field value actual = pair.2.verdict field value actual := by
  intro pair listed
  simp only [Operator.spellings, List.mem_cons, List.not_mem_nil, or_false] at listed
  rcases listed with rfl | rfl
  · exact verdict_spelling field contains_textual .containsStarred rfl rfl value actual
  · exact verdict_spelling field startsWith_textual .startsWithStarred rfl rfl value actual

/-- The clause of an operator matches a value: it has a verdict, and holds. -/
def Operator.Matches (op : Operator) (field : Text) (value actual : Value) : Prop :=
  op.verdict field value actual = .ok true

/-- The operators are one logic on a value. -/
structure Consistent (field : Text) (value actual : Value) : Prop where
  /-- A negated operator matches exactly if its positive one does not. -/
  opposites : ∀ pair ∈ Operator.opposites,
    pair.1.Matches field value actual ↔ ¬ pair.2.Matches field value actual
  /-- A starred spelling matches exactly if the plain one does. -/
  spellings : ∀ pair ∈ Operator.spellings,
    pair.1.Matches field value actual ↔ pair.2.Matches field value actual
  /-- What equals also starts and ends with, and what starts or ends with also contains. -/
  strength : actual.isNull = false → ∀ edge ∈ [Operator.startsWith, Operator.endsWith],
    (Operator.equal.Matches field value actual → edge.Matches field value actual) ∧
      (edge.Matches field value actual → Operator.contains.Matches field value actual)

end

section
variable {value actual : Value} (field : Text)

/-- In values without texts nothing is found, and nothing is found missing. -/
theorem not_matches_search {op : Operator} (textual : op.comparison ∈ Comparison.textual)
    (unanswerable : ¬ Answerable value actual) : ¬ op.Matches field value actual := by
  obtain ⟨present, unwritten⟩ := not_or.1 unanswerable
  rw [Operator.Matches, verdict_search_of_present field textual (Bool.eq_false_iff.2 present),
    onTexts_eq_ok_iff]
  exact fun found => unwritten found.1

theorem consistent_of_answerable (plain : value.isPlain = true)
    (answerable : Answerable value actual) : Consistent field value actual where
  opposites := by
    intro pair listed
    rw [Operator.Matches, Operator.Matches, verdict_opposites field value actual pair listed,
      Operator.verdict_of_answerable field answerable]
    simp [Except.map]
  spellings := by
    intro pair listed
    rw [Operator.Matches, Operator.Matches, verdict_spellings field value actual pair listed]
  strength := by
    intro present edge listed
    have written : actual.writable = true ∧ value.writable = true :=
      answerable.resolve_left (Bool.eq_false_iff.1 present)
    have found {op : Operator} (textual : op.comparison ∈ Comparison.textual)
        (positive : op.negated = false) (equal : Operator.equal.Matches field value actual) :
        op.Matches field value actual :=
      (search_of_equal field textual positive plain present equal).trans
        (onTexts_of_writable written.1 written.2 true)
    simp only [List.mem_cons, List.not_mem_nil, or_false] at listed
    rcases listed with rfl | rfl
    · exact ⟨found startsWith_textual rfl,
        contains_of_search field startsWith_textual rfl present⟩
    · exact ⟨found endsWith_textual rfl, contains_of_search field endsWith_textual rfl present⟩

end

/-- The operators are one logic on a plain value exactly if there is nothing in the record, or both
values can be written. -/
theorem consistent_iff (field : Text) {value : Value} (plain : value.isPlain = true)
    (actual : Value) : Consistent field value actual ↔
      actual.isNull = true ∨ actual.writable = true ∧ value.writable = true := by
  constructor
  · intro consistent
    by_contra unanswerable
    -- Neither does such a value contain the text, nor does it not contain it.
    have missing : ¬ Operator.contains.Matches field value actual :=
      not_matches_search field contains_textual unanswerable
    have found : Operator.notContains.Matches field value actual :=
      (consistent.opposites (.notContains, .contains) (by decide)).2 missing
    have textual : Operator.notContains.comparison ∈ Comparison.textual := by decide
    exact not_matches_search field textual unanswerable found
  · exact consistent_of_answerable field plain

/-- A truth value in a record and the text that names it. -/
theorem consistent_flag : (Value.text "true").isPlain = true ∧
    Consistent "sold" (.text "true") (.flag true) ∧
    Operator.equal.Matches "sold" (.text "true") (.flag true) ∧
    Operator.contains.Matches "sold" (.text "true") (.flag true) := by
  have plain : (Value.text "true").isPlain = true := rfl
  have consistent := (consistent_iff "sold" plain (.flag true)).2 (.inr ⟨rfl, rfl⟩)
  have equal : Operator.equal.Matches "sold" (.text "true") (.flag true) := by
    unfold Operator.Matches
    decide +kernel
  obtain ⟨starts, inside⟩ := consistent.strength rfl .startsWith (by decide)
  exact ⟨plain, consistent, equal, inside (starts equal)⟩

/-- An integer that is too long to be written equals itself, but it neither starts nor ends with
itself nor contains itself, nor does it not. -/
theorem consistent_fails_overlong :
    let n : Value := .int ((10 ^ digitLimit : Nat) : Int)
    n.isPlain = true ∧ Operator.equal.Matches "n" n n ∧
      (∀ op : Operator, op.comparison ∈ Comparison.textual → ¬ op.Matches "n" n n) ∧
      ¬ Consistent "n" n n := by
  intro n
  have long : n.writable = false := by
    show (Number.whole ((10 ^ digitLimit : Nat) : Int)).writable = false
    rw [Number.writable, Int.natAbs_natCast]
    exact decide_eq_false (Nat.not_le.2 digitLimit_lt_length)
  have unanswerable : ¬ Answerable n n := by
    rintro (null | ⟨written, -⟩)
    · cases null
    · rw [long] at written
      cases written
  refine ⟨rfl, ?_, fun op textual => not_matches_search "n" textual unanswerable,
    fun consistent => unanswerable ((consistent_iff "n" rfl n).1 consistent)⟩
  rw [Operator.Matches, verdict_equal_of_kind "n" rfl rfl rfl rfl rfl, Value.same_number,
    Number.same_whole]
  exact congrArg Except.ok (decide_eq_true rfl)

end Listing
