import Listing.Proofs.Meaning

/-!
# Filters in memory and as conditions

Filters are tested in memory or handed to a source as one condition. For clauses of the grammar
on plain fields both give the same verdict on every record, or stop at the same text that cannot be
written, operator by operator (`condition_agrees`) and for whole lists (`conditionOf_agrees_iff`),
unless a clause asks for equality with a field called `self`, of which no condition can be made.
-/

namespace Listing

/-! ## Plain fields -/

/-- A dotted field whose path has the same parts, none of them a way of testing. -/
def PlainField (field : Text) : Prop :=
  ∀ part ∈ field.splitOn '.', part ≠ [] ∧ ¬ separator <:+: part ∧ part.head? ≠ some '_' ∧
    part.getLast? ≠ some '_' ∧ part ∉ lookups.map Prod.fst

theorem lookups_facts : ∀ entry ∈ lookups, lookups.lookup entry.1 = some entry.2 ∧
    occursIn separator entry.1 = false ∧ entry.1.getLast? ≠ some '_' := by
  decide

section
variable {field : Text} {attributes : Attributes} {record : Value}

theorem joinWith_splitOn (field : Text) : joinWith ['.'] (field.splitOn '.') = field :=
  List.intercalate_splitOn '.'

theorem fieldPath_eq (field : Text) : fieldPath field = joinWith separator (field.splitOn '.') := by
  conv => lhs; rw [← joinWith_splitOn field]
  exact fieldPath_joinWith fun part hpart => not_mem_of_mem_splitOn hpart

theorem PlainField.separable (plain : PlainField field) :
    ∀ part ∈ field.splitOn '.', Separable part :=
  fun part hpart => ⟨(plain part hpart).2.1, (plain part hpart).2.2.2.1⟩

theorem pathParts_fieldPath (plain : PlainField field) :
    pathParts (fieldPath field) = field.splitOn '.' := by
  rw [fieldPath_eq]
  exact pathParts_joinWith (List.splitOn_ne_nil _ _) plain.separable

theorem pathParts_lookupPath (plain : PlainField field) {name : Text} (h : Separable name) :
    pathParts (lookupPath field name) = field.splitOn '.' ++ [name] := by
  rw [lookupPath, fieldPath_eq]
  have parts := pathParts_joinWith_append (List.splitOn_ne_nil '.' field) plain.separable name
  rw [pathParts_of_separable h] at parts
  exact parts

/-- A path without a way of testing is a test of equality with the value of the field. -/
theorem testVerdict_fieldPath (plain : PlainField field) (value : Value) :
    testVerdict attributes record (fieldPath field) value =
      (record.valueAt attributes field).equalVerdict value := by
  have unnamed : (field.splitOn '.').getLast?.bind (fun name => lookups.lookup name) = none := by
    cases last : (field.splitOn '.').getLast? with
    | none => rfl
    | some part =>
      have absent := (plain part (List.mem_of_getLast? last)).2.2.2.2
      show lookups.lookup part = none
      rw [List.lookup_eq_none_iff]
      intro entry hentry
      have apart : part ≠ entry.1 := fun same => absent (same ▸ List.mem_map_of_mem hentry)
      simpa using apart
  rw [testVerdict, pathParts_fieldPath plain, unnamed]
  rfl

theorem separable_of_listed {name : Text} {lookup : Lookup} (listed : (name, lookup) ∈ lookups) :
    Separable name := by
  obtain ⟨-, inside, last⟩ := lookups_facts _ listed
  refine ⟨fun h => ?_, last⟩
  rw [(occursIn_iff separator name).2 h] at inside
  contradiction

/-- A path with a way of testing tests the value of the field in that way. -/
theorem testVerdict_lookupPath (plain : PlainField field) {name : Text} {lookup : Lookup}
    (listed : (name, lookup) ∈ lookups) (value : Value) :
    testVerdict attributes record (lookupPath field name) value =
      lookup.verdict (record.valueAt attributes field) value := by
  have found := (lookups_facts _ listed).1
  rw [testVerdict, pathParts_lookupPath plain (separable_of_listed listed), List.getLast?_concat,
    List.dropLast_concat, Option.bind_some, found]
  rfl

theorem Condition.single_verdict (negated : Bool) (path : Text) (value : Value) :
    (Condition.single negated path value).verdict attributes record =
      (testVerdict attributes record path value).map (negated != ·) := by
  rw [single, verdict, verdictOfAll, verdictOfAll, verdict, andAlso_true]

/-! ## Clauses -/

/-- The condition of a clause of the grammar is that of its operator's comparison. -/
theorem condition_ofOperator (field : Text) (op : Operator) (value : Value) :
    (FilterClause.ofOperator field op value).condition =
      (FilterClause.ofOperator field op value).conditionFor op.comparison := by
  have named : Operator.ofToken op.token = .ok op := by
    rw [Operator.ofToken, Operator.ofToken?_token]
  show (Operator.ofToken op.token >>= fun op => _) = _
  rw [named]
  rfl

theorem evaluate_ofOperator (field : Text) (op : Operator) (value actual : Value) :
    (FilterClause.ofOperator field op value).evaluate actual =
      verdictOn ((FilterClause.ofOperator field op value).needsTextsFor op.comparison actual) actual
        value ((FilterClause.ofOperator field op value).holdsFor op.comparison actual) := by
  have named : Operator.ofToken? (FilterClause.ofOperator field op value).token = some op :=
    Operator.ofToken?_token op
  rw [FilterClause.evaluate, FilterClause.needsTexts, FilterClause.accepts, named]
  rfl

/-- The comparisons that order values. -/
def Comparison.orders : List Comparison :=
  [.greaterThan, .greaterOrEqual, .lessThan, .lessOrEqual]

/-- The comparisons that look for a text within another. -/
def Comparison.textual : List Comparison :=
  [.contains, .startsWith, .endsWith]

theorem Operator.orders_facts (op : Operator) (h : op.comparison ∈ Comparison.orders) :
    op.negated = false ∧ op.ignoresCase = false := by
  revert h
  cases op <;> decide

theorem Operator.textual_ignoresCase (op : Operator) (h : op.comparison ∈ Comparison.textual) :
    op.ignoresCase = true := by
  revert h
  cases op <;> decide

theorem orders_listed : ∀ kind ∈ Comparison.orders, (kind.lookup, Lookup.order kind) ∈ lookups := by
  decide

theorem textual_listed : ∀ kind ∈ Comparison.textual,
    ('i' :: kind.lookup, Lookup.find kind true) ∈ lookups := by
  decide

/-- A clause of equality with a value whose field has the name that conditions keep for
themselves. -/
def FilterClause.NamesSelf (f : FilterClause) : Prop :=
  f.field = "self".toList ∧ (f.token = "==".toList ∨ f.token = "!=".toList) ∧ f.value.isNull = false

/-- A condition with tests that has the verdict of a clause on a record. -/
def Agrees (attributes : Attributes) (record : Value) (f : FilterClause) (q : Condition) : Prop :=
  q.isEmpty = false ∧
    q.verdict attributes record = f.evaluate (record.valueAt attributes f.field)

theorem absence_verdict (plain : PlainField field) (present : Bool) :
    (Condition.single false (lookupPath field "isnull") (.flag present)).verdict attributes record =
      .ok ((record.valueAt attributes field).isNull == present) := by
  have listed : ("isnull".toList, Lookup.absence) ∈ lookups := by decide
  rw [Condition.single_verdict, testVerdict_lookupPath plain listed, map_false_bne]
  rfl

/-- Orders and searches are made in one way: the name of the comparison ends the path, with an `i`
before it if the case does not matter. -/
theorem conditionFor_named (f : FilterClause) {kind : Comparison}
    (h : kind ∈ Comparison.orders ++ Comparison.textual) :
    f.conditionFor kind = .ok (.single f.negated.truthy (lookupPath f.field
      (if f.ignoresCase.truthy then 'i' :: kind.lookup else kind.lookup)) f.value) := by
  cases kind with
  | greaterThan | greaterOrEqual | lessThan | lessOrEqual => rfl
  | contains | startsWith | endsWith => rfl
  | equal | notEqual | isNull | isNotNull => exact absurd h (by decide)

theorem holdsFor_order (f : FilterClause) {kind : Comparison} (h : kind ∈ Comparison.orders)
    (actual : Value) : f.holdsFor kind actual = kind.holds actual f.value := by
  cases kind with
  | greaterThan | greaterOrEqual | lessThan | lessOrEqual => rfl
  | contains | startsWith | endsWith | equal | notEqual | isNull | isNotNull =>
    exact absurd h (by decide)

theorem needsTextsFor_order (f : FilterClause) {kind : Comparison}
    (h : kind ∈ Comparison.orders) (actual : Value) :
    f.needsTextsFor kind actual = actual.orderedByTexts f.value := by
  cases kind with
  | greaterThan | greaterOrEqual | lessThan | lessOrEqual => rfl
  | contains | startsWith | endsWith | equal | notEqual | isNull | isNotNull =>
    exact absurd h (by decide)

theorem needsTextsFor_textual (f : FilterClause) {kind : Comparison}
    (h : kind ∈ Comparison.textual) (actual : Value) :
    f.needsTextsFor kind actual = !actual.isNull := by
  cases kind with
  | contains | startsWith | endsWith => rfl
  | greaterThan | greaterOrEqual | lessThan | lessOrEqual | equal | notEqual | isNull | isNotNull =>
    exact absurd h (by decide)

/-- Nothing has no text within it, so that the negation alone decides. -/
theorem holdsFor_textual (f : FilterClause) {kind : Comparison} (h : kind ∈ Comparison.textual)
    (actual : Value) : f.holdsFor kind actual = (f.negated.truthy != (!actual.isNull &&
      kind.finds (f.value.foldedText f.ignoresCase.truthy)
        (actual.foldedText f.ignoresCase.truthy))) := by
  have by_cases_null (negated found : Bool) :
      (if actual.isNull then negated else found != negated) =
        (negated != (!actual.isNull && found)) := by
    cases actual.isNull <;> cases negated <;> cases found <;> rfl
  cases kind with
  | contains | startsWith | endsWith => exact by_cases_null _ _
  | greaterThan | greaterOrEqual | lessThan | lessOrEqual | equal | notEqual | isNull | isNotNull =>
    exact absurd h (by decide)

theorem order_agrees (plain : PlainField field) (op : Operator) (value : Value)
    (order : op.comparison ∈ Comparison.orders) :
    ∃ q, (FilterClause.ofOperator field op value).condition = .ok q ∧
      Agrees attributes record (.ofOperator field op value) q := by
  obtain ⟨unnegated, caseful⟩ := op.orders_facts order
  refine ⟨.single false (lookupPath field op.comparison.lookup) value, ?_, rfl, ?_⟩
  · rw [condition_ofOperator, conditionFor_named _ (List.mem_append_left _ order)]
    simp [FilterClause.ofOperator, unnegated, caseful]
  · rw [Condition.single_verdict, testVerdict_lookupPath plain (orders_listed _ order),
      map_false_bne, evaluate_ofOperator, needsTextsFor_order _ order, holdsFor_order _ order]
    rfl

theorem textual_agrees (plain : PlainField field) (op : Operator) (value : Value)
    (textual : op.comparison ∈ Comparison.textual) :
    ∃ q, (FilterClause.ofOperator field op value).condition = .ok q ∧
      Agrees attributes record (.ofOperator field op value) q := by
  have caseless := op.textual_ignoresCase textual
  refine ⟨.single op.negated (lookupPath field ('i' :: op.comparison.lookup)) value, ?_, rfl, ?_⟩
  · rw [condition_ofOperator, conditionFor_named _ (List.mem_append_right _ textual)]
    simp [FilterClause.ofOperator, caseless]
  · rw [Condition.single_verdict, testVerdict_lookupPath plain (textual_listed _ textual),
      Lookup.verdict, map_verdictOn, evaluate_ofOperator, needsTextsFor_textual _ textual,
      holdsFor_textual _ textual]
    simp [FilterClause.ofOperator, caseless, Lookup.holds, Lookup.needsTexts]

/-- A plain field can be the path of a test of equality, unless it is the name that conditions keep
for themselves. The other such names start with an underscore. -/
theorem namedCondition_of_plain (plain : PlainField field) (apart : field ≠ "self".toList)
    (value : Value) :
    namedCondition (fieldPath field) value = .ok (.single false (fieldPath field) value) := by
  have parts := pathParts_fieldPath plain
  have same {name : Text} (h : fieldPath field = name) : field.splitOn '.' = pathParts name := by
    rw [← parts, h]
  have notSelf : fieldPath field ≠ "self".toList := by
    intro h
    apply apart
    rw [← joinWith_splitOn field, same h]
    rfl
  -- The connector and the negation start with underscores, and no part of a plain field does.
  have notMark {name : Text} (first : ∃ rest, pathParts name = ('_' :: rest) :: []) :
      fieldPath field ≠ name := by
    intro h
    obtain ⟨rest, split⟩ := first
    have start := (plain ('_' :: rest) (by rw [same h, split]; exact List.mem_cons_self)).2.2.1
    exact start rfl
  rw [namedCondition, if_neg notSelf, if_neg (notMark ⟨_, rfl⟩), if_neg (notMark ⟨_, rfl⟩)]

/-- The condition of equality agrees with equality in memory. For nothing it is a test for
absence. -/
theorem equal_agrees (plain : PlainField field) {value : Value}
    (apart : ¬ (field = "self".toList ∧ value.isNull = false)) :
    ∃ path tested, equalCondition field value = .ok (.single false path tested) ∧
      ∀ (attributes : Attributes) (record : Value), testVerdict attributes record path tested =
        (record.valueAt attributes field).equalVerdict value := by
  unfold equalCondition
  cases null : value.isNull with
  | true =>
    refine ⟨_, _, rfl, fun attributes record => ?_⟩
    have listed : ("isnull".toList, Lookup.absence) ∈ lookups := by decide
    have unread : (record.valueAt attributes field).equatedByTexts value false = false := by
      simp [Value.equatedByTexts, null]
    rw [testVerdict_lookupPath plain listed, Value.equalVerdict, unread, Value.equals, null]
    cases actual : (record.valueAt attributes field).isNull <;>
      simp [Lookup.verdict, Lookup.needsTexts, Lookup.holds, verdictOn, actual]
  | false =>
    have notSelf : field ≠ "self".toList := fun same => apart ⟨same, null⟩
    exact ⟨_, _, namedCondition_of_plain plain notSelf value,
      fun attributes record => testVerdict_fieldPath plain value⟩

theorem Operator.equal_facts (op : Operator) (h : op.comparison = .equal) :
    op.token = "==".toList ∧ op.ignoresCase = false := by
  revert h
  cases op <;> decide

theorem Operator.notEqual_facts (op : Operator) (h : op.comparison = .notEqual) :
    op.token = "!=".toList ∧ op.ignoresCase = false := by
  revert h
  cases op <;> decide

/-- The condition of a clause of the grammar on a plain field agrees with the clause. -/
theorem condition_agrees (plain : PlainField field) (op : Operator) (value : Value)
    (apart : ¬ (FilterClause.ofOperator field op value).NamesSelf) :
    ∃ q, (FilterClause.ofOperator field op value).condition = .ok q ∧
      Agrees attributes record (.ofOperator field op value) q := by
  cases kind : op.comparison with
  | greaterThan | greaterOrEqual | lessThan | lessOrEqual =>
    exact order_agrees plain op value (by rw [kind]; decide)
  | contains | startsWith | endsWith =>
    exact textual_agrees plain op value (by rw [kind]; decide)
  | isNull =>
    refine ⟨.single false (lookupPath field "isnull") (.flag true), ?_, rfl, ?_⟩
    · rw [condition_ofOperator, kind]
      rfl
    · rw [absence_verdict plain, evaluate_ofOperator, kind]
      simp [FilterClause.holdsFor, FilterClause.needsTextsFor, verdictOn, FilterClause.ofOperator]
  | isNotNull =>
    refine ⟨.single false (lookupPath field "isnull") (.flag false), ?_, rfl, ?_⟩
    · rw [condition_ofOperator, kind]
      rfl
    · rw [absence_verdict plain, evaluate_ofOperator, kind]
      simp [FilterClause.holdsFor, FilterClause.needsTextsFor, verdictOn, FilterClause.ofOperator]
  | equal =>
    obtain ⟨token, caseful⟩ := op.equal_facts kind
    obtain ⟨path, tested, condition, same⟩ :=
      equal_agrees plain fun h => apart ⟨h.1, .inl token, h.2⟩
    refine ⟨.single false path tested, ?_, rfl, ?_⟩
    · rw [condition_ofOperator, kind]
      exact condition
    · rw [Condition.single_verdict, same, map_false_bne, evaluate_ofOperator, kind]
      simp [FilterClause.holdsFor, FilterClause.needsTextsFor, Value.equalVerdict,
        FilterClause.ofOperator, caseful]
  | notEqual =>
    obtain ⟨token, caseful⟩ := op.notEqual_facts kind
    obtain ⟨path, tested, condition, same⟩ :=
      equal_agrees plain fun h => apart ⟨h.1, .inr token, h.2⟩
    refine ⟨.single true path tested, ?_, rfl, ?_⟩
    · rw [condition_ofOperator, kind]
      exact congrArg (Except.map Condition.negate) condition
    · rw [Condition.single_verdict, same, Value.equalVerdict, map_verdictOn, evaluate_ofOperator,
        kind]
      simp [FilterClause.holdsFor, FilterClause.needsTextsFor, FilterClause.ofOperator, caseful]

/-- No condition can be made of a clause of equality on the name that conditions keep. -/
theorem condition_of_namesSelf {op : Operator} {value : Value}
    (h : (FilterClause.ofOperator field op value).NamesSelf) :
    ∃ e, (FilterClause.ofOperator field op value).condition = .error e := by
  obtain ⟨named, token, given⟩ := h
  obtain rfl : field = "self".toList := named
  have fails : equalCondition "self" value = .error (.nameTaken "Q.__init__()" "self") := by
    rw [equalCondition, show value.isNull = false from given]
    rfl
  rcases token with token | token
  · obtain rfl : op = .equal := Operator.token_injective token
    exact ⟨_, fails⟩
  · obtain rfl : op = .notEqual := Operator.token_injective token
    exact ⟨_, congrArg (Except.map Condition.negate) fails⟩

/-! ## Lists of clauses -/

/-- One clause after the other is joined to a condition that is proper. -/
theorem foldlM_both {filters : List FilterClause}
    (agrees : ∀ f ∈ filters, ∃ q, f.condition = .ok q ∧ Agrees attributes record f q)
    {start : Condition} (proper : start.Proper attributes record) :
    ∃ q, filters.foldlM (fun acc f => (f.condition).map acc.both) start = .ok q ∧
      q.verdict attributes record =
        andAlso (start.verdict attributes record) (evaluate attributes filters record) := by
  -- What is joined so far stays proper, so that the next clause cannot lose its negation.
  induction filters generalizing start with
  | nil => exact ⟨start, rfl, (andAlso_true _).symm⟩
  | cons f rest ih =>
    obtain ⟨first, condition, tests, same⟩ := agrees f List.mem_cons_self
    have properFirst : first.Proper attributes record := fun empty =>
      absurd (tests.symm.trans empty) (by simp)
    obtain ⟨q, joined, verdict⟩ := ih (fun g hg => agrees g (List.mem_cons_of_mem f hg))
      (Condition.proper_both proper properFirst)
    refine ⟨q, ?_, ?_⟩
    · rw [List.foldlM_cons, condition]
      exact joined
    · rw [verdict, Condition.both_verdict proper properFirst, same, andAlso_assoc]
      rfl

/-- A clause without a condition leaves the list without one. -/
theorem foldlM_both_fails {filters : List FilterClause} {f : FilterClause} (hf : f ∈ filters)
    {e : Failure} (fails : f.condition = .error e) (start q : Condition) :
    filters.foldlM (fun acc f => (f.condition).map acc.both) start ≠ .ok q := by
  induction filters generalizing start with
  | nil => exact absurd hf List.not_mem_nil
  | cons g rest ih =>
    intro joined
    rw [List.foldlM_cons] at joined
    obtain ⟨next, first, later⟩ := bind_eq_ok_iff.1 joined
    rcases List.mem_cons.1 hf with rfl | hf
    · rw [fails] at first
      contradiction
    · exact ih hf next later

end

/-- A clause of the grammar on a plain field: its flags are those of its operator. -/
structure FilterClause.Standard (f : FilterClause) : Prop where
  operator : ∃ op : Operator, f = .ofOperator f.field op f.value
  plain : PlainField f.field

/-- Filters of the grammar on plain fields are one condition that has their verdict on every record,
exactly if none of them asks for equality with a value on a field called `self`. -/
theorem conditionOf_agrees_iff {filters : List FilterClause}
    (standard : ∀ f ∈ filters, f.Standard) (attributes : Attributes) (record : Value) :
    (∃ q, conditionOf filters = .ok q ∧
      q.verdict attributes record = evaluate attributes filters record) ↔
      ∀ f ∈ filters, ¬ f.NamesSelf := by
  constructor
  · -- One clause without a condition is enough for the fold to fail.
    rintro ⟨q, joined, -⟩ f hf selfish
    obtain ⟨op, same⟩ := (standard f hf).operator
    rw [same] at selfish
    obtain ⟨e, fails⟩ := condition_of_namesSelf selfish
    rw [← same] at fails
    exact foldlM_both_fails hf fails .always q joined
  · intro apart
    have agrees : ∀ f ∈ filters, ∃ q, f.condition = .ok q ∧ Agrees attributes record f q := by
      intro f hf
      obtain ⟨op, same⟩ := (standard f hf).operator
      have clause := apart f hf
      rw [same] at clause ⊢
      exact condition_agrees (standard f hf).plain op f.value clause
    have proper : Condition.always.Proper attributes record := fun _ => rfl
    obtain ⟨q, joined, verdict⟩ := foldlM_both agrees proper
    exact ⟨q, joined, verdict.trans (true_andAlso _)⟩

/-- Two filters on one record with an object. -/
theorem conditionOf_agrees_shop :
    let filters : List FilterClause := [.ofOperator "brand.name" .notContains (.text "Lap"),
      .ofOperator "added" .greaterOrEqual (.text "2024-06-01")]
    let record : Value :=
      .dict [("brand", .object [("name", .text "desks")]), ("added", .date "2024-06-02")]
    evaluate Value.fields filters record = .ok true ∧
      ∃ q, conditionOf filters = .ok q ∧
        q.verdict Value.fields record = evaluate Value.fields filters record := by
  intro filters record
  have brand : PlainField "brand.name" := by
    unfold PlainField
    decide +kernel
  have added : PlainField "added" := by
    unfold PlainField
    decide +kernel
  have found : evaluate Value.fields filters record = .ok true := rfl
  refine ⟨found, (conditionOf_agrees_iff ?_ Value.fields record).2 ?_⟩
  · intro f hf
    simp only [filters, List.mem_cons, List.not_mem_nil, or_false] at hf
    rcases hf with rfl | rfl
    · exact ⟨⟨.notContains, rfl⟩, brand⟩
    · exact ⟨⟨.greaterOrEqual, rfl⟩, added⟩
  · intro f hf
    simp only [filters, List.mem_cons, List.not_mem_nil, or_false] at hf
    rcases hf with rfl | rfl
    · rintro ⟨named, -⟩
      exact absurd named (by decide)
    · rintro ⟨named, -⟩
      exact absurd named (by decide)

/-- Equality on a field called `self` has no condition, although it has a meaning in memory. -/
theorem conditionOf_self_fails :
    let filters : List FilterClause := [.ofOperator "self" .equal (.text "x")]
    let record : Value := .dict [("self", .text "x")]
    (∀ f ∈ filters, f.Standard) ∧ evaluate Value.fields filters record = .ok true ∧
      ¬ ∃ q, conditionOf filters = .ok q ∧
        q.verdict Value.fields record = evaluate Value.fields filters record := by
  intro filters record
  have plain : PlainField "self" := by
    unfold PlainField
    decide +kernel
  refine ⟨List.forall_mem_singleton.2 ⟨⟨.equal, rfl⟩, plain⟩, rfl, ?_⟩
  rintro ⟨q, joined, -⟩
  have fails : conditionOf filters = .error (.nameTaken "Q.__init__()" "self") := rfl
  rw [fails] at joined
  contradiction

end Listing
