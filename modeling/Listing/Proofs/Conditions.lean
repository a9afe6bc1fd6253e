import Listing.Proofs.Agreement

/-!
# Which filters make a condition

Filters of the grammar on any fields make a condition unless one of them is misnamed: it asks for
equality with a value on a field whose name a condition takes for itself. A field is written as a
path first, but no other field is written as such a name (`fieldPath_eq_iff`), so that the names
are those of fields (`exists_condition_iff`). One clause without a condition is enough for a list to
have none (`exists_conditionOf_iff`).
-/

namespace Listing

/-- A clause of equality with a value on a field called `self`, or on one called `_connector` where
the value does not name a way of joining. -/
def FilterClause.Misnamed (f : FilterClause) : Prop :=
  (f.token = "==".toList ∨ f.token = "!=".toList) ∧ f.value.isNull = false ∧
    (f.field = "self".toList ∨
      f.field = "_connector".toList ∧ ∀ joining : Joining, f.value ≠ .text joining.word)

/-! ## Names as paths -/

section
variable {field name : Text}

theorem fieldPath_of_not_mem (h : '.' ∉ field) : fieldPath field = field := by
  induction field with
  | nil => rfl
  | cons c rest ih =>
    have apart : c ≠ '.' := fun same => h (same ▸ List.mem_cons_self)
    have later := ih fun mem => h (List.mem_cons_of_mem c mem)
    rw [fieldPath, List.flatMap_cons, if_neg apart]
    exact congrArg (c :: ·) later

theorem separator_infix_of_mem (h : '.' ∈ field) : separator <:+: fieldPath field := by
  obtain ⟨before, after, rfl⟩ := List.append_of_mem h
  refine ⟨fieldPath before, fieldPath after, ?_⟩
  simp [fieldPath, separator]

/-- A name without dots and without the mark between the parts of a path is the path of the field of
that name alone. -/
theorem fieldPath_eq_iff (noDot : '.' ∉ name) (noMark : ¬ separator <:+: name) :
    fieldPath field = name ↔ field = name := by
  constructor
  · rintro rfl
    have plain : '.' ∉ field := fun h => noMark (separator_infix_of_mem h)
    exact (fieldPath_of_not_mem plain).symm
  · rintro rfl
    exact fieldPath_of_not_mem noDot

theorem not_infix_of_occursIn {t : Text} (h : occursIn separator t = false) :
    ¬ separator <:+: t := by
  intro mark
  rw [(occursIn_iff separator t).2 mark] at h
  contradiction

end

/-! ## Clauses -/

theorem Joining.ofValue_eq_ok_iff {v : Value} {joining : Joining} :
    Joining.ofValue v = .ok joining ↔ v = .text joining.word := by
  constructor
  · intro h
    unfold Joining.ofValue at h
    split at h
    · next found lookup =>
      obtain rfl := Except.ok.inj h
      obtain ⟨w, text, named⟩ := Option.bind_eq_some_iff.1 lookup
      have word : found.word = w := by simpa using List.find?_some named
      cases v with
      | text t => rw [word, Option.some.inj text]
      | null | number | list | dict | object | date | moment => contradiction
    · contradiction
  · rintro rfl
    cases joining <;> rfl

theorem exists_namedCondition_iff {field : Text} {value : Value} :
    (∃ q, namedCondition (fieldPath field) value = .ok q) ↔
      ¬ (field = "self".toList ∨
        field = "_connector".toList ∧ ∀ joining : Joining, value ≠ .text joining.word) := by
  have self : fieldPath field = "self".toList ↔ field = "self".toList :=
    fieldPath_eq_iff (by decide) (not_infix_of_occursIn (by decide))
  have connector : fieldPath field = "_connector".toList ↔ field = "_connector".toList :=
    fieldPath_eq_iff (by decide) (not_infix_of_occursIn (by decide))
  have negated : fieldPath field = "_negated".toList ↔ field = "_negated".toList :=
    fieldPath_eq_iff (by decide) (not_infix_of_occursIn (by decide))
  unfold namedCondition
  simp only [self, connector, negated]
  by_cases isSelf : field = "self".toList
  · rw [if_pos isSelf]
    exact iff_of_false (fun ⟨_, made⟩ => by cases made) fun apart => apart (.inl isSelf)
  rw [if_neg isSelf]
  by_cases isNegated : field = "_negated".toList
  · have notConnector : field ≠ "_connector".toList := by
      rw [isNegated]
      decide
    rw [if_pos isNegated]
    exact iff_of_true ⟨_, rfl⟩ fun named => named.elim isSelf fun h => notConnector h.1
  rw [if_neg isNegated]
  by_cases isConnector : field = "_connector".toList
  · rw [if_pos isConnector]
    constructor
    · rintro ⟨q, made⟩ (h | ⟨-, unnamed⟩)
      · exact isSelf h
      · obtain ⟨joining, named, -⟩ := map_eq_ok_iff.1 made
        exact unnamed joining (Joining.ofValue_eq_ok_iff.1 named)
    · intro apart
      obtain ⟨joining, named⟩ : ∃ joining : Joining, value = .text joining.word :=
        Classical.byContradiction fun unnamed =>
          apart (.inr ⟨isConnector, fun joining named => unnamed ⟨joining, named⟩⟩)
      exact ⟨_, map_eq_ok_iff.2 ⟨joining, Joining.ofValue_eq_ok_iff.2 named, rfl⟩⟩
  · rw [if_neg isConnector]
    exact iff_of_true ⟨_, rfl⟩ fun named => named.elim isSelf fun h => isConnector h.1

section
variable {f : FilterClause} {op : Operator}

theorem condition_of_token (named : f.token = op.token) :
    f.condition = f.conditionFor op.comparison := by
  have found : Operator.ofToken f.token = .ok op := by
    rw [named, Operator.ofToken, Operator.ofToken?_token]
  rw [FilterClause.condition, found]
  rfl

theorem exists_equalCondition_iff {field : Text} {value : Value} :
    (∃ q, equalCondition field value = .ok q) ↔
      ¬ (value.isNull = false ∧ (field = "self".toList ∨
        field = "_connector".toList ∧ ∀ joining : Joining, value ≠ .text joining.word)) := by
  unfold equalCondition
  cases null : value.isNull with
  | true =>
    rw [if_pos rfl]
    exact iff_of_true ⟨_, rfl⟩ fun h => absurd h.1 (by decide)
  | false =>
    rw [if_neg Bool.false_ne_true, exists_namedCondition_iff]
    exact not_congr ⟨fun h => ⟨rfl, h⟩, And.right⟩

theorem Operator.comparison_of_token (h : op.token = "==".toList ∨ op.token = "!=".toList) :
    op.comparison = .equal ∨ op.comparison = .notEqual := by
  rcases h with token | token
  · obtain rfl : op = .equal := Operator.token_injective token
    exact .inl rfl
  · obtain rfl : op = .notEqual := Operator.token_injective token
    exact .inr rfl

/-- A clause with an operator of the grammar has a condition unless it is misnamed. -/
theorem exists_condition_iff (named : f.token = op.token) :
    (∃ q, f.condition = .ok q) ↔ ¬ f.Misnamed := by
  rw [condition_of_token named]
  cases kind : op.comparison with
  | equal =>
    have token := named.trans (op.equal_facts kind).1
    show (∃ q, equalCondition f.field f.value = .ok q) ↔ _
    rw [exists_equalCondition_iff]
    exact not_congr ⟨fun h => ⟨.inl token, h⟩, And.right⟩
  | notEqual =>
    have token := named.trans (op.notEqual_facts kind).1
    have negated : (∃ q, f.conditionFor .notEqual = .ok q) ↔
        ∃ q, equalCondition f.field f.value = .ok q := by
      show (∃ q, (equalCondition f.field f.value).map Condition.negate = .ok q) ↔ _
      simp only [map_eq_ok_iff]
      exact ⟨fun ⟨_, q, made, _⟩ => ⟨q, made⟩, fun ⟨q, made⟩ => ⟨_, q, made, rfl⟩⟩
    rw [negated, exists_equalCondition_iff]
    exact not_congr ⟨fun h => ⟨.inr token, h⟩, And.right⟩
  | greaterThan | greaterOrEqual | lessThan | lessOrEqual | contains | startsWith | endsWith
  | isNull | isNotNull =>
    refine iff_of_true ⟨_, rfl⟩ fun misnamed => ?_
    have equality := Operator.comparison_of_token (named ▸ misnamed.1)
    rw [kind] at equality
    exact absurd equality (by decide)

/-- Clauses have a condition together exactly if each has one. -/
theorem exists_conditionOf_iff {filters : List FilterClause} :
    (∃ q, conditionOf filters = .ok q) ↔ ∀ f ∈ filters, ∃ q, f.condition = .ok q := by
  suffices ∀ start : Condition,
      (∃ q, filters.foldlM (fun acc f => (f.condition).map acc.both) start = .ok q) ↔
        ∀ f ∈ filters, ∃ q, f.condition = .ok q from this .always
  induction filters with
  | nil => exact fun start => iff_of_true ⟨start, rfl⟩ (by simp)
  | cons f rest ih =>
    intro start
    simp only [List.foldlM_cons, bind_eq_ok_iff, map_eq_ok_iff, List.forall_mem_cons]
    constructor
    · rintro ⟨q, next, ⟨first, made, rfl⟩, joined⟩
      exact ⟨⟨first, made⟩, (ih _).1 ⟨q, joined⟩⟩
    · rintro ⟨⟨first, made⟩, others⟩
      obtain ⟨q, joined⟩ := (ih (start.both first)).2 others
      exact ⟨q, _, ⟨first, made, rfl⟩, joined⟩

end

/-! ## Failures -/

/-- A failure of arithmetic by a divisor of zero. -/
def Failure.isDivision : Failure → Bool
  | .divisionByZero | .realDivisionByZero => true
  | _ => false

theorem isDivision_of_equalCondition {field : Text} {value : Value} {failure : Failure}
    (fails : equalCondition field value = .error failure) : failure.isDivision = false := by
  unfold equalCondition namedCondition Joining.ofValue at fails
  split at fails
  · cases fails
  split at fails
  · cases fails; rfl
  split at fails
  · cases fails
  split at fails
  · split at fails
    · cases fails
    · cases fails; rfl
  · cases fails

theorem isDivision_of_condition {f : FilterClause} {failure : Failure}
    (fails : f.condition = .error failure) : failure.isDivision = false := by
  rcases bind_eq_error_iff.1 fails with unknown | ⟨op, -, fails⟩
  · unfold Operator.ofToken at unknown
    split at unknown
    · cases unknown
    · cases unknown; rfl
  · cases kind : op.comparison with
    | equal =>
      rw [kind] at fails
      exact isDivision_of_equalCondition fails
    | notEqual =>
      rw [kind] at fails
      exact isDivision_of_equalCondition (map_eq_error_iff.1 fails)
    | greaterThan | greaterOrEqual | lessThan | lessOrEqual | contains | startsWith | endsWith
    | isNull | isNotNull =>
      rw [kind] at fails
      cases fails

/-- Making a condition divides nothing. -/
theorem isDivision_of_conditionOf {filters : List FilterClause} {failure : Failure}
    (fails : conditionOf filters = .error failure) : failure.isDivision = false := by
  suffices ∀ start : Condition,
      filters.foldlM (fun acc f => (f.condition).map acc.both) start = .error failure →
        failure.isDivision = false from this .always fails
  clear fails
  induction filters with
  | nil => exact fun start fails => by cases fails
  | cons f rest ih =>
    intro start fails
    rw [List.foldlM_cons] at fails
    rcases bind_eq_error_iff.1 fails with fails | ⟨next, -, fails⟩
    · exact isDivision_of_condition (map_eq_error_iff.1 fails)
    · exact ih next fails

end Listing
