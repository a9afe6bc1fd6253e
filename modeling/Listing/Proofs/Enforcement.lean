import Listing.Proofs.Expression
import Listing.Request

/-!
# What a capability lets through

The rules by which one expression of a list of filters is decided, as a relation that does not
compute: `Capability.Decides`. It has one case for each way an expression can end. Reading a
list decides its items one by one and in order (`Accounted`), and what is read from a whole request
accounts for its filters and its sorts (`Request.accounts_of_read`).
-/

namespace Listing

/-! ## The rules -/

/-- The first rule of a list for a field. -/
def FirstRule (rules : List FieldRule) (field : Text) (rule : FieldRule) : Prop :=
  ∃ before after, rules = before ++ rule :: after ∧ rule.field = field ∧
    ∀ earlier ∈ before, earlier.field ≠ field

namespace Capability

/-- An expression may be used, and this is the type of its values: anything without a list of
rules, and with one what the first rule for the field names. -/
def Grants (c : Capability) (e : Expression) (declared : Option ValueType) : Prop :=
  match c.filterable with
  | none => declared = none
  | some rules =>
    ∃ rule, FirstRule rules e.field rule ∧ e.op.token ∈ rule.operators ∧ rule.declared = declared

/-- The value of an expression: a null check has none, whatever is written there. -/
inductive HasValue (declared : Option ValueType) (e : Expression) : Value → Prop where
  | null : e.op.checksNull = true → HasValue declared e .null
  | coerced {v : Value} : e.op.checksNull = false → ValueType.coerce declared e.value = .ok v →
      HasValue declared e v

/-- How an item of a list of filters ends. -/
inductive Decides (c : Capability) (item : Text) : Request.Verdict → Prop where
  | clause {e : Expression} {declared : Option ValueType} {v : Value} (cut : e.Cut item)
      (grants : c.Grants e declared) (value : HasValue declared e v) :
      Decides c item (.accepted {
        field := c.inside e.field, token := e.op.token, value := v
        negated := .flag e.op.negated, ignoresCase := .flag e.op.ignoresCase })
  | noOperator (uncut : ∀ e : Expression, ¬ e.Cut item) :
      Decides c item (.refused (.noOperator item))
  | unknownField {e : Expression} {rules : List FieldRule} (cut : e.Cut item)
      (listed : c.filterable = some rules) (unknown : ∀ rule ∈ rules, rule.field ≠ e.field) :
      Decides c item (.dropped (.notFilterable e.field))
  | forbidden {e : Expression} {rules : List FieldRule} {rule : FieldRule} (cut : e.Cut item)
      (listed : c.filterable = some rules) (first : FirstRule rules e.field rule)
      (absent : e.op.token ∉ rule.operators) :
      Decides c item (.refused (.operatorNotAllowed e.field e.op.token))
  | misfit {e : Expression} {declared : Option ValueType} {why : BadValue} (cut : e.Cut item)
      (grants : c.Grants e declared) (valued : e.op.checksNull = false)
      (fails : ValueType.coerce declared e.value = .error why) :
      Decides c item (.refused (.badValue e.field why))

end Capability

/-! ## The decision is the one the rules give -/

theorem ruleFor?_eq_some_iff {rules : List FieldRule} {field : Text} {rule : FieldRule} :
    Capability.ruleFor? rules field = some rule ↔ FirstRule rules field rule := by
  unfold Capability.ruleFor? FirstRule
  rw [List.find?_eq_some_iff_append]
  constructor
  · rintro ⟨fits, before, after, split, earlier⟩
    exact ⟨before, after, split, by simpa using fits, by simpa using earlier⟩
  · rintro ⟨before, after, split, fits, earlier⟩
    exact ⟨by simpa using fits, before, after, split, by simpa using earlier⟩

theorem ruleFor?_eq_none_iff {rules : List FieldRule} {field : Text} :
    Capability.ruleFor? rules field = none ↔ ∀ rule ∈ rules, rule.field ≠ field := by
  unfold Capability.ruleFor?
  rw [List.find?_eq_none]
  simp

namespace Request

theorem typedClause_decides {c : Capability} {item : Text} {e : Expression}
    {declared : Option ValueType} (cut : e.Cut item) (grants : c.Grants e declared) :
    c.Decides item (typedClause c declared e) := by
  unfold typedClause
  cases null : e.op.checksNull with
  | true => exact .clause cut grants (.null null)
  | false =>
    cases coerced : ValueType.coerce declared e.value with
    | ok v => exact .clause cut grants (.coerced null coerced)
    | error why => exact .misfit cut grants null coerced

theorem judgeExpression_of_grants {c : Capability} {e : Expression} {declared : Option ValueType}
    (grants : c.Grants e declared) : judgeExpression c e = typedClause c declared e := by
  unfold judgeExpression
  unfold Capability.Grants at grants
  cases listed : c.filterable with
  | none =>
    rw [listed] at grants
    rw [show declared = none from grants]
  | some rules =>
    rw [listed] at grants
    obtain ⟨rule, first, allowed, rfl⟩ := grants
    simp [ruleFor?_eq_some_iff.2 first, allowed]

/-- The decision on an item is one that the rules give. -/
theorem judgeFilter_decides (c : Capability) (item : Text) :
    c.Decides item (judgeFilter c item) := by
  cases read : Expression.read? item with
  | none =>
    have uncut : ∀ e : Expression, ¬ e.Cut item := by
      intro e cut
      rw [Expression.read?_eq_some_iff.2 cut] at read
      contradiction
    rw [judgeFilter, read]
    exact .noOperator uncut
  | some e =>
    have cut := Expression.read?_eq_some_iff.1 read
    rw [judgeFilter, read]
    show c.Decides item (judgeExpression c e)
    cases listed : c.filterable with
    | none =>
      have grants : c.Grants e none := by simp [Capability.Grants, listed]
      rw [judgeExpression_of_grants grants]
      exact typedClause_decides cut grants
    | some rules =>
      cases found : Capability.ruleFor? rules e.field with
      | none =>
        rw [judgeExpression, listed]
        simp only [found]
        exact .unknownField cut listed (ruleFor?_eq_none_iff.1 found)
      | some rule =>
        have first := ruleFor?_eq_some_iff.1 found
        by_cases allowed : e.op.token ∈ rule.operators
        · have grants : c.Grants e rule.declared := by
            simp only [Capability.Grants, listed]
            exact ⟨rule, first, allowed, rfl⟩
          rw [judgeExpression_of_grants grants]
          exact typedClause_decides cut grants
        · rw [judgeExpression, listed]
          simp only [found, List.contains_eq_mem, allowed, decide_false, Bool.false_eq_true,
            if_false]
          exact .forbidden cut listed first allowed

/-- The rules give no other decision. -/
theorem eq_judgeFilter_of_decides {c : Capability} {item : Text} {v : Verdict}
    (h : c.Decides item v) : v = judgeFilter c item := by
  unfold judgeFilter
  cases h with
  | clause cut grants value =>
    rw [Expression.read?_eq_some_iff.2 cut]
    show _ = judgeExpression c _
    rw [judgeExpression_of_grants grants, typedClause]
    cases value with
    | null null => simp [null, FilterClause.ofOperator]
    | coerced valued coerced => simp [valued, coerced, FilterClause.ofOperator]
  | noOperator uncut =>
    cases read : Expression.read? item with
    | none => rfl
    | some e => exact absurd (Expression.read?_eq_some_iff.1 read) (uncut e)
  | unknownField cut listed unknown =>
    rw [Expression.read?_eq_some_iff.2 cut]
    simp [judgeExpression, listed, ruleFor?_eq_none_iff.2 unknown]
  | forbidden cut listed first absent =>
    rw [Expression.read?_eq_some_iff.2 cut]
    simp [judgeExpression, listed, ruleFor?_eq_some_iff.2 first, absent]
  | misfit cut grants valued fails =>
    rw [Expression.read?_eq_some_iff.2 cut]
    show _ = judgeExpression c _
    rw [judgeExpression_of_grants grants, typedClause]
    simp [valued, fails]

theorem decides_iff {c : Capability} {item : Text} {v : Verdict} :
    c.Decides item v ↔ judgeFilter c item = v := by
  constructor
  · intro h
    exact (eq_judgeFilter_of_decides h).symm
  · rintro rfl
    exact judgeFilter_decides c item

/-! ## Lists -/

/-- The items of a list of filters with their ends: each item is one clause, one fault or one
warning, in the order of the items. -/
inductive Accounted (c : Capability) :
    List Text → List FilterClause → List Fault → List Warning → Prop where
  | nil : Accounted c [] [] [] []
  | accepted {item : Text} {clause : FilterClause} {items clauses faults warnings}
      (decided : c.Decides item (.accepted clause))
      (rest : Accounted c items clauses faults warnings) :
      Accounted c (item :: items) (clause :: clauses) faults warnings
  | refused {item : Text} {fault : Fault} {items clauses faults warnings}
      (decided : c.Decides item (.refused fault))
      (rest : Accounted c items clauses faults warnings) :
      Accounted c (item :: items) clauses (fault :: faults) warnings
  | dropped {item : Text} {warning : Warning} {items clauses faults warnings}
      (decided : c.Decides item (.dropped warning))
      (rest : Accounted c items clauses faults warnings) :
      Accounted c (item :: items) clauses faults (warning :: warnings)

/-- Reading a list of filters accounts for its items. -/
theorem accounted_readFilters (raw : Option Text) (c : Capability) :
    Accounted c (filterItems raw) (readFilters raw c).filters (readFilters raw c).faults
      (readFilters raw c).warnings := by
  unfold readFilters
  -- On the items: each goes to one of the three lists, at its place.
  induction filterItems raw with
  | nil => exact .nil
  | cons item more ih =>
    have decided := judgeFilter_decides c item
    cases judged : judgeFilter c item with
    | accepted clause =>
      rw [judged] at decided
      simpa [Filtering.ofVerdicts, judged] using Accounted.accepted decided ih
    | refused fault =>
      rw [judged] at decided
      simpa [Filtering.ofVerdicts, judged] using Accounted.refused decided ih
    | dropped warning =>
      rw [judged] at decided
      simpa [Filtering.ofVerdicts, judged] using Accounted.dropped decided ih

theorem allowsSort_iff {c : Capability} {field : Text} :
    c.allowsSort field = true ↔ ∀ names, c.sortable = some names → field ∈ names := by
  unfold Capability.allowsSort
  cases c.sortable with
  | none => simp
  | some names => simp

/-- The sorts that are kept under their inside names, and the warnings about the others. -/
theorem partitionSorts_judgeSort (c : Capability) (items : List SortClause) :
    partitionSorts (items.map (judgeSort c)) =
      ((items.filter fun s => c.allowsSort s.field).map
        fun s => { s with field := c.inside s.field },
       (items.filter fun s => !c.allowsSort s.field).map fun s => Warning.notSortable s.field) := by
  induction items with
  | nil => rfl
  | cons s more ih =>
    cases allowed : c.allowsSort s.field with
    | true =>
      have judged : judgeSort c s = .ok { s with field := c.inside s.field } := by
        simp [judgeSort, allowed]
      simpa [partitionSorts, judged, allowed] using ih
    | false =>
      have judged : judgeSort c s = .error (.notSortable s.field) := by
        simp [judgeSort, allowed]
      simpa [partitionSorts, judged, allowed] using ih

/-- Without a default sort the sorts are the decisions on the items, even where no item is kept. -/
theorem readSorts_of_no_default {c : Capability} (noDefault : c.defaultSort = none)
    (raw : Option Text) : readSorts raw c = partitionSorts ((sortItems raw).map (judgeSort c)) := by
  unfold readSorts
  cases kept : partitionSorts ((sortItems raw).map (judgeSort c)) with
  | mk sorts warnings =>
    cases sorts with
    | nil => simp [noDefault]
    | cons first more => rfl

/-! ## The whole request -/

/-- A request whose paging can be read is read: sorts and filters stop nothing. -/
theorem read_of_readPaging {r : Request} {c : Capability} {p : Preferences} {page : Int}
    {size : Number} {faults : List Fault} (h : r.readPaging c p = .ok (page, size, faults)) :
    r.read c p = .ok {
      query := { page := .whole page, pageSize := size, sorts := (readSorts r.sorts c).1,
                 filters := (readFilters r.filters c).filters }
      faults := faults ++ (readFilters r.filters c).faults
      warnings := (readSorts r.sorts c).2 ++ (readFilters r.filters c).warnings } := by
  rw [read, h]
  rfl

theorem read_of_readPaging_error {r : Request} {c : Capability} {p : Preferences} {f : Failure}
    (h : r.readPaging c p = .error f) : r.read c p = .error f := by
  rw [read, h]
  rfl

end Request

/-- What holds of the decision on one item, in the words of the grammar and of the rules. -/
structure Capability.Judged (c : Capability) (item : Text) : Prop where
  /-- There is one decision. -/
  once : ∃ v, c.Decides item v ∧ ∀ w, c.Decides item w → w = v
  /-- Without rules, every item with an operator after a field is a clause. -/
  unlisted : c.filterable = none →
    ((∃ clause, c.Decides item (.accepted clause)) ↔
      ∃ (field : Text) (op : Operator) (value : Text),
        field ≠ [] ∧ field ++ op.token ++ value = item)
  /-- With rules, the first one for the field has to name the token and the type. -/
  listed : ∀ rules, c.filterable = some rules →
    ((∃ clause, c.Decides item (.accepted clause)) ↔
      ∃ e : Expression, e.Cut item ∧ ∃ rule, FirstRule rules e.field rule ∧
        e.op.token ∈ rule.operators ∧
        (e.op.checksNull = true ∨ ∃ v, ValueType.coerce rule.declared e.value = .ok v))
  /-- The warnings are those about unknown fields. -/
  warned : ∀ w, c.Decides item (.dropped w) ↔
    ∃ (e : Expression) (rules : List FieldRule), e.Cut item ∧ c.filterable = some rules ∧
      (∀ rule ∈ rules, rule.field ≠ e.field) ∧ w = .notFilterable e.field
  /-- Every other failure is a fault of the filters. -/
  faulted : ∀ f, c.Decides item (.refused f) → f.kind = "invalid_filter".toList

theorem hasValue_none (e : Expression) : ∃ v, Capability.HasValue none e v := by
  cases null : e.op.checksNull with
  | true => exact ⟨_, .null null⟩
  | false => exact ⟨_, .coerced null rfl⟩

theorem exists_hasValue_iff {declared : Option ValueType} {e : Expression} :
    (∃ v, Capability.HasValue declared e v) ↔
      e.op.checksNull = true ∨ ∃ v, ValueType.coerce declared e.value = .ok v := by
  constructor
  · rintro ⟨v, h⟩
    cases h with
    | null null => exact .inl null
    | coerced _ coerced => exact .inr ⟨v, coerced⟩
  · intro h
    cases null : e.op.checksNull with
    | true => exact ⟨_, .null null⟩
    | false =>
      rcases h with given | ⟨v, coerced⟩
      · rw [null] at given
        contradiction
      · exact ⟨v, .coerced null coerced⟩

/-- An item becomes a clause if it can be cut, may be used, and has a value. -/
theorem exists_clause_iff {c : Capability} {item : Text} :
    (∃ clause, c.Decides item (.accepted clause)) ↔
      ∃ (e : Expression) (declared : Option ValueType), e.Cut item ∧ c.Grants e declared ∧
        ∃ v, Capability.HasValue declared e v := by
  constructor
  · rintro ⟨clause, h⟩
    cases h with
    | clause cut grants value => exact ⟨_, _, cut, grants, _, value⟩
  · rintro ⟨e, declared, cut, grants, v, value⟩
    exact ⟨_, .clause cut grants value⟩

/-- Every item is judged by the rules. -/
theorem Capability.judged (c : Capability) (item : Text) : c.Judged item where
  once := ⟨Request.judgeFilter c item, Request.judgeFilter_decides c item,
    fun w h => Request.eq_judgeFilter_of_decides h⟩
  unlisted := by
    intro listed
    rw [exists_clause_iff, ← Expression.exists_cut_iff]
    constructor
    · rintro ⟨e, declared, cut, -⟩
      exact ⟨e, cut⟩
    · rintro ⟨e, cut⟩
      have grants : c.Grants e none := by simp [Grants, listed]
      exact ⟨e, none, cut, grants, hasValue_none e⟩
  listed := by
    intro rules listed
    rw [exists_clause_iff]
    constructor
    · rintro ⟨e, declared, cut, grants, value⟩
      simp only [Grants, listed] at grants
      obtain ⟨rule, first, allowed, rfl⟩ := grants
      exact ⟨e, cut, rule, first, allowed, exists_hasValue_iff.1 value⟩
    · rintro ⟨e, cut, rule, first, allowed, value⟩
      have grants : c.Grants e rule.declared := by
        simp only [Grants, listed]
        exact ⟨rule, first, allowed, rfl⟩
      exact ⟨e, rule.declared, cut, grants, exists_hasValue_iff.2 value⟩
  warned := by
    intro w
    constructor
    · intro h
      cases h with
      | unknownField cut listed unknown => exact ⟨_, _, cut, listed, unknown, rfl⟩
    · rintro ⟨e, rules, cut, listed, unknown, rfl⟩
      exact .unknownField cut listed unknown
  faulted := by
    intro f h
    cases h with
    | noOperator => rfl
    | forbidden => rfl
    | misfit => rfl

/-- An outcome accounts for each filter and each sort of a request by the rules of a capability. -/
structure Capability.Accounts (c : Capability) (p : Preferences) (r : Request) (o : Outcome) :
    Prop where
  /-- Each filter that is not empty is one clause, one fault or one warning, in order. The other
  faults are those of the paging, and the other warnings those about sorts. -/
  filters : ∃ page size pagingFaults filterFaults filterWarnings,
    r.readPaging c p = .ok (page, size, pagingFaults) ∧
    o.query.page = .whole page ∧ o.query.pageSize = size ∧
    o.faults = pagingFaults ++ filterFaults ∧
    o.warnings = ((Request.sortItems r.sorts).filter fun s => !c.allowsSort s.field).map
      (fun s => .notSortable s.field) ++ filterWarnings ∧
    Request.Accounted c
      ((CommaList.splitFilters (r.filters.getD [])).filter fun item => item ≠ [])
      o.query.filters filterFaults filterWarnings
  judged : ∀ item, c.Judged item
  /-- The kept sorts stand under their inside names, and the default sort only if none is kept. -/
  sorts : ∃ kept, kept = ((Request.sortItems r.sorts).filter fun s => c.allowsSort s.field).map
      (fun s => { s with field := c.inside s.field }) ∧
    o.query.sorts = if kept = [] then c.defaultSort.toList else kept
  allowed : ∀ field, c.allowsSort field = true ↔ ∀ names, c.sortable = some names → field ∈ names

/-- What is read from a request accounts for it. -/
theorem Request.accounts_of_read {r : Request} {c : Capability} {p : Preferences} {o : Outcome}
    (h : r.read c p = .ok o) : c.Accounts p r o := by
  obtain ⟨⟨page, size, pagingFaults⟩, paging, -⟩ := bind_eq_ok_iff.1 h
  obtain rfl := Except.ok.inj ((read_of_readPaging paging).symm.trans h)
  have sorted := partitionSorts_judgeSort c (sortItems r.sorts)
  refine ⟨⟨page, size, pagingFaults, _, _, paging, rfl, rfl, rfl, ?_,
    accounted_readFilters r.filters c⟩, c.judged, ⟨_, rfl, ?_⟩, fun field => allowsSort_iff⟩
  · simp only [readSorts, sorted]
  · simp only [readSorts, sorted, List.isEmpty_iff]

end Listing
