import Listing.Proofs.Conditions
import Listing.Proofs.Separation

/-!
# Which test a clause reaches

Whether the condition of a clause tells how its operator compares. The names at the ends of paths
do not run into each other: `lookupPath_inj`. What a clause read by an endpoint without a list of
fields and inside names asks for is one of four things (`Expression.Builds`), and no two of them
are the same, with two exceptions. Equality adds no name to the path, so a field that already ends
with one asks for the test of that name; and some fields are marks, which equality and inequality
can set alike. `comparison_of_same_iff` says that these are all, and plain fields are none of them
(`FilterClause.not_disguises_of_plain`).
-/

namespace Listing

/-! ## Equality of conditions -/

mutual

/-- Equality of conditions: tests by their paths and values, conjunctions by their negation and
their children in order. A mark of negation counts as true or not. -/
def Condition.same : Condition → Condition → Bool
  | .test p v, .test q w => p = q && v.same w
  | .all m as, .all n bs => m = n && sameAll as bs
  | .blank joining m, .blank other n => joining = other && m.truthy = n.truthy
  | .all negated [], .blank .all m | .blank .all m, .all negated [] => negated = m.truthy
  | _, _ => false

def Condition.sameAll : List Condition → List Condition → Bool
  | [], [] => true
  | a :: as, b :: bs => a.same b && sameAll as bs
  | _, _ => false

end

namespace Condition

theorem same_single_iff {m n : Bool} {p q : Text} {v w : Value} :
    (single m p v).same (single n q w) = true ↔ m = n ∧ p = q ∧ v.same w = true := by
  simp [single, same, sameAll]

theorem same_blank_iff {joining other : Joining} {m n : Value} :
    (blank joining m).same (blank other n) = true ↔ joining = other ∧ m.truthy = n.truthy := by
  simp [same]

theorem same_single_blank (negated : Bool) (path : Text) (value m : Value) (joining : Joining) :
    (single negated path value).same (blank joining m) = false := by
  simp [single, same]

theorem same_blank_single (negated : Bool) (path : Text) (value m : Value) (joining : Joining) :
    (blank joining m).same (single negated path value) = false := by
  simp [single, same]

end Condition

@[simp] theorem Number.same_flag_iff {a b : Bool} :
    (Number.flag a).same (.flag b) = true ↔ a = b := by
  show (Number.whole (ofFlag a)).same (.whole (ofFlag b)) = true ↔ a = b
  cases a <;> cases b <;> simp [ofFlag]

@[simp] theorem Value.same_text_iff {t u : Text} :
    (Value.text t).same (.text u) = true ↔ t = u := by
  simp [same]

@[simp] theorem Value.same_flag_text (b : Bool) (t : Text) :
    (Value.flag b).same (.text t) = false := by
  simp [same]

@[simp] theorem Value.same_text_flag (b : Bool) (t : Text) :
    (Value.text t).same (.flag b) = false := by
  simp [same]

/-! ## Names at the end of a path -/

/-- The name at the end of a path, without the mark between parts in it, can be told from the rest
of the path. -/
theorem lookupPath_inj {field other name word : Text} (simple : '_' ∉ name) (simple' : '_' ∉ word)
    (same : lookupPath field name = lookupPath other word) :
    fieldPath field = fieldPath other ∧ name = word := by
  have last {field name : Text} (simple : '_' ∉ name) :
      (lookupPath field name).reverse.takeWhile (· ≠ '_') = name.reverse := by
    have outside : ∀ c ∈ name.reverse, decide (c ≠ '_') = true := by
      intro c hc
      exact decide_eq_true fun mark => simple (mark ▸ List.mem_reverse.1 hc)
    rw [lookupPath, List.reverse_append, List.takeWhile_append_of_pos outside]
    simp
  obtain rfl : name = word := List.reverse_inj.1 ((last simple).symm.trans (same ▸ last simple'))
  exact ⟨List.append_cancel_right (List.append_cancel_right same), rfl⟩

/-! ## What a clause asks for -/

namespace Operator

/-- The name of an operator at the end of a path, with an `i` before it if the case does not
matter. -/
def lookupName (op : Operator) : Text :=
  if op.ignoresCase then 'i' :: op.comparison.lookup else op.comparison.lookup

theorem lookupName_simple (op : Operator) : '_' ∉ op.lookupName := by
  cases op <;> decide

/-- Orders and searches add a name to the path. -/
def AddsName (op : Operator) : Prop :=
  op.comparison ∈ Comparison.orders ++ Comparison.textual

/-- Different names are those of different comparisons. -/
theorem comparison_of_lookupName {op other : Operator} (named : op.AddsName)
    (others : other.AddsName) (same : op.lookupName = other.lookupName) :
    op.comparison = other.comparison := by
  revert named others same
  unfold AddsName
  cases op <;> cases other <;> decide

/-- Equality and its negation. -/
def Equates (op : Operator) : Prop :=
  op = equal ∨ op = notEqual

theorem Equates.eq_of_negated {op other : Operator} (h : op.Equates) (h' : other.Equates)
    (same : op.negated = other.negated) : op = other := by
  revert h h' same
  unfold Equates
  cases op <;> cases other <;> decide

theorem AddsName.valued {op : Operator} (h : op.AddsName) : op.checksNull = false := by
  revert h
  unfold AddsName
  cases op <;> decide

theorem Equates.valued {op : Operator} (h : op.Equates) : op.checksNull = false := by
  rcases h with rfl | rfl <;> rfl

theorem AddsName.comparison_ne {op other : Operator} (h : op.AddsName) (h' : other.Equates) :
    other.comparison ≠ op.comparison := by
  intro same
  rw [AddsName, ← same] at h
  rcases h' with rfl | rfl <;> revert h <;> decide

/-- An operator asks for absence, or adds a name to the path, or equates. -/
theorem kinds (op : Operator) :
    (op = isNull ∨ op = isNotNull) ∨ op.AddsName ∨ op.Equates := by
  unfold AddsName Equates
  cases op <;> decide

end Operator

/-- The marks that equality sets on a field: a way of joining, and whether it is negated. -/
inductive Marks : Text → Value → Joining → Bool → Prop where
  | negated (v : Value) : Marks "_negated".toList v .all v.truthy
  | connector (joining : Joining) :
      Marks "_connector".toList (.text joining.word) joining false

theorem Marks.underscored {field : Text} {v : Value} {joining : Joining} {truth : Bool}
    (h : Marks field v joining truth) : ∃ part ∈ field.splitOn '.', part.head? = some '_' := by
  cases h with
  | negated => exact ⟨"_negated".toList, by decide, rfl⟩
  | connector => exact ⟨"_connector".toList, by decide, rfl⟩

/-- The condition that a path has a value is a test, or else a mark. -/
theorem namedCondition_cases {field : Text} {value : Value} {q : Condition}
    (made : namedCondition (fieldPath field) value = .ok q) :
    q = .single false (fieldPath field) value ∨
      ∃ joining mark, Marks field value joining mark.truthy ∧ q = .blank joining mark := by
  have isField {name : Text} (noDot : '.' ∉ name) (noMark : occursIn separator name = false) :
      fieldPath field = name → field = name :=
    (fieldPath_eq_iff noDot (not_infix_of_occursIn noMark)).1
  unfold namedCondition at made
  split at made
  · cases made
  split at made
  · next path =>
    obtain rfl := isField (by decide) (by decide) path
    cases made
    exact .inr ⟨_, _, .negated value, rfl⟩
  split at made
  · next path =>
    obtain rfl := isField (by decide) (by decide) path
    obtain ⟨joining, named, rfl⟩ := map_eq_ok_iff.1 made
    obtain rfl := Joining.ofValue_eq_ok_iff.1 named
    exact .inr ⟨_, _, .connector joining, rfl⟩
  · cases made
    exact .inl rfl

theorem namedCondition_of_marks {field : Text} {value : Value} {joining : Joining} {truth : Bool}
    (h : Marks field value joining truth) :
    ∃ mark, namedCondition (fieldPath field) value = .ok (.blank joining mark) ∧
      mark.truthy = truth := by
  cases h with
  | negated => exact ⟨value, rfl, rfl⟩
  | connector => exact ⟨.flag false, by cases joining <;> rfl, rfl⟩

/-- No mark is a path with a name at its end. -/
theorem namedCondition_lookupPath (field word : Text) (value : Value) :
    namedCondition (lookupPath field word) value =
      .ok (.single false (lookupPath field word) value) := by
  have other {name : Text} (noMark : occursIn separator name = false) :
      lookupPath field word ≠ name := by
    rintro rfl
    exact not_infix_of_occursIn noMark ⟨fieldPath field, word, rfl⟩
  rw [namedCondition, if_neg (other (by decide)), if_neg (other (by decide)),
    if_neg (other (by decide))]

/-- What the clause of an expression asks for. -/
inductive Expression.Builds (e : Expression) : Condition → Prop where
  | absence (checks : e.op = .isNull ∨ e.op = .isNotNull) :
      Builds e (.single false (lookupPath e.field "isnull") (.flag (e.op = .isNull)))
  | lookup (named : e.op.AddsName) :
      Builds e (.single e.op.negated (lookupPath e.field e.op.lookupName) (.text e.value))
  | plain (equates : e.op.Equates) :
      Builds e (.single e.op.negated (fieldPath e.field) (.text e.value))
  | mark {joining : Joining} {mark : Value} {truth : Bool} (equates : e.op.Equates)
      (marks : Marks e.field (.text e.value) joining truth)
      (negated : mark.truthy = (truth != e.op.negated)) : Builds e (.blank joining mark)

namespace Expression
variable {e d : Expression} {q r : Condition}

theorem condition_of_addsName (named : e.op.AddsName) :
    e.clause.condition =
      .ok (.single e.op.negated (lookupPath e.field e.op.lookupName) (.text e.value)) := by
  rw [clause, condition_ofOperator, conditionFor_named _ named, named.valued]
  rfl

theorem condition_of_equates (equates : e.op.Equates) {field word : Text}
    (path : fieldPath e.field = lookupPath field word) :
    e.clause.condition = .ok (.single e.op.negated (fieldPath e.field) (.text e.value)) := by
  have named := path ▸ namedCondition_lookupPath field word (.text e.value)
  obtain ⟨_, op, value⟩ := e
  rcases equates with rfl | rfl
  · exact named
  · exact congrArg (Except.map Condition.negate) named

theorem builds_of_condition (made : e.clause.condition = .ok q) : e.Builds q := by
  obtain ⟨field, op, value⟩ := e
  rcases op.kinds with (rfl | rfl) | named | rfl | rfl
  · cases made
    exact .absence (.inl rfl)
  · cases made
    exact .absence (.inr rfl)
  · cases (condition_of_addsName named).symm.trans made
    exact .lookup named
  · have built : namedCondition (fieldPath field) (.text value) = .ok q := made
    rcases namedCondition_cases built with rfl | ⟨joining, mark, marks, rfl⟩
    · exact .plain (.inl rfl)
    · exact .mark (.inl rfl) marks (Bool.bne_false _).symm
  · have built : (namedCondition (fieldPath field) (.text value)).map Condition.negate = .ok q :=
      made
    obtain ⟨opposite, named, rfl⟩ := map_eq_ok_iff.1 built
    rcases namedCondition_cases named with rfl | ⟨joining, mark, marks, rfl⟩
    · exact .plain (.inr rfl)
    · exact .mark (.inr rfl) marks (Bool.bne_true _).symm

end Expression

/-! ## Disguises -/

/-- The way in which the operator of a clause compares. -/
def FilterClause.comparison? (f : FilterClause) : Option Comparison :=
  (Operator.ofToken? f.token).map Operator.comparison

/-- A clause of equality that asks for what another clause asks for, which compares in another
way. -/
inductive FilterClause.Disguises (f g : FilterClause) : Prop where
  /-- The path of the field already ends with the name that the other operator adds. -/
  | lookup {op other : Operator} (equality : f.token = op.token) (equates : op.Equates)
      (compared : g.token = other.token) (named : other.AddsName)
      (path : fieldPath f.field = lookupPath g.field other.lookupName)
      (negation : op.negated = other.negated) (value : f.value = g.value)
  /-- Both fields are marks, and inequality negates its own to what equality sets. -/
  | mark {joining : Joining} {truth : Bool} (equality : f.token = Operator.equal.token)
      (inequality : g.token = Operator.notEqual.token) (marks : Marks f.field f.value joining truth)
      (opposite : Marks g.field g.value joining (!truth))

theorem Operator.AddsName.listed {op : Operator} (h : op.AddsName) :
    ∃ lookup, (op.lookupName, lookup) ∈ lookups := by
  rcases List.mem_append.1 h with order | textual
  · rw [lookupName, (op.orders_facts order).2]
    exact ⟨_, orders_listed _ order⟩
  · rw [lookupName, op.textual_ignoresCase textual]
    exact ⟨_, textual_listed _ textual⟩

/-- Among plain fields there is no disguise: no part of one is the name of a test, or a mark. -/
theorem FilterClause.not_disguises_of_plain {f g : FilterClause} (plain : PlainField f.field)
    (others : PlainField g.field) : ¬ f.Disguises g := by
  rintro (⟨-, -, -, named, path, -, -⟩ | ⟨-, -, marks, -⟩)
  · obtain ⟨lookup, listed⟩ := named.listed
    have parts := congrArg pathParts path
    rw [pathParts_fieldPath plain, pathParts_lookupPath others (separable_of_listed listed)]
      at parts
    have part := parts ▸ List.mem_append_right _ List.mem_cons_self
    exact (plain _ part).2.2.2.2 (List.mem_map_of_mem listed)
  · obtain ⟨part, hpart, underscore⟩ := marks.underscored
    exact (plain part hpart).2.2.1 underscore

namespace Expression
variable {e d : Expression} {q r : Condition}

theorem comparison?_clause (e : Expression) : e.clause.comparison? = some e.op.comparison := by
  show (Operator.ofToken? e.op.token).map Operator.comparison = _
  rw [Operator.ofToken?_token]
  rfl

theorem value_clause (h : e.op.checksNull = false) : e.clause.value = .text e.value := by
  simp [clause, FilterClause.ofOperator, h]

/-- Equal conditions come from equal comparisons, or one clause disguises the other. -/
theorem Builds.comparison_of_same (first : e.Builds q) (second : d.Builds r)
    (same : q.same r = true) :
    e.op.comparison = d.op.comparison ∨ e.clause.Disguises d.clause ∨
      d.clause.Disguises e.clause := by
  cases first with
  | absence checks =>
    cases second with
    | absence others =>
      obtain ⟨-, -, flags⟩ := Condition.same_single_iff.1 same
      have op : e.op = d.op := by
        rcases checks with checks | checks <;> rcases others with others | others <;>
          simp [checks, others] at flags ⊢
      exact .inl (congrArg Operator.comparison op)
    | lookup | plain => simp [Condition.same_single_iff] at same
    | mark => simp [Condition.same_single_blank] at same
  | lookup named =>
    cases second with
    | absence => simp [Condition.same_single_iff] at same
    | lookup others =>
      obtain ⟨-, path, -⟩ := Condition.same_single_iff.1 same
      have names := (lookupPath_inj e.op.lookupName_simple d.op.lookupName_simple path).2
      exact .inl (Operator.comparison_of_lookupName named others names)
    | plain equates =>
      obtain ⟨negation, path, value⟩ := Condition.same_single_iff.1 same
      refine .inr (.inr (.lookup rfl equates rfl named path.symm negation.symm ?_))
      rw [value_clause named.valued, value_clause equates.valued, Value.same_text_iff.1 value]
    | mark => simp [Condition.same_single_blank] at same
  | plain equates =>
    cases second with
    | absence => simp [Condition.same_single_iff] at same
    | lookup named =>
      obtain ⟨negation, path, value⟩ := Condition.same_single_iff.1 same
      refine .inr (.inl (.lookup rfl equates rfl named path negation ?_))
      rw [value_clause named.valued, value_clause equates.valued, Value.same_text_iff.1 value]
    | plain others =>
      obtain ⟨negation, -, -⟩ := Condition.same_single_iff.1 same
      exact .inl (congrArg Operator.comparison (equates.eq_of_negated others negation))
    | mark => simp [Condition.same_single_blank] at same
  | mark equates marks negated =>
    cases second with
    | mark others opposite unnegated =>
      obtain ⟨rfl, truth⟩ := Condition.same_blank_iff.1 same
      rw [negated, unnegated] at truth
      rw [← value_clause equates.valued] at marks
      rw [← value_clause others.valued] at opposite
      have opposed {t u : Bool}
          (h : (t != Operator.equal.negated) = (u != Operator.notEqual.negated)) : u = !t := by
        revert h
        cases t <;> cases u <;> decide
      -- Two marks set by operators of one kind are no disguise, whatever they are.
      rcases equates with left | left <;> rcases others with right | right
      · exact .inl (by rw [left, right])
      · rw [left, right] at truth
        refine .inr (.inl (.mark (congrArg Operator.token left)
          (congrArg Operator.token right) marks ?_))
        exact opposed truth ▸ opposite
      · rw [left, right] at truth
        refine .inr (.inr (.mark (congrArg Operator.token right)
          (congrArg Operator.token left) opposite ?_))
        exact opposed truth.symm ▸ marks
      · exact .inl (by rw [left, right])
    | absence | lookup | plain => simp [Condition.same_blank_single] at same

/-- A clause and the one that it disguises have equal conditions, and compare in different ways. -/
theorem conditions_of_disguises (h : e.clause.Disguises d.clause) :
    e.op.comparison ≠ d.op.comparison ∧ ∃ q r, e.clause.condition = .ok q ∧
      d.clause.condition = .ok r ∧ q.same r = true ∧ r.same q = true := by
  cases h with
  | lookup equality equates compared named path negation value =>
    obtain rfl := Operator.token_injective equality
    obtain rfl := Operator.token_injective compared
    rw [value_clause equates.valued, value_clause named.valued] at value
    have text := Value.text.inj value
    refine ⟨named.comparison_ne equates, _, _, condition_of_equates equates path,
      condition_of_addsName named, ?_, ?_⟩
    · exact Condition.same_single_iff.2 ⟨negation, path, Value.same_text_iff.2 text⟩
    · exact Condition.same_single_iff.2
        ⟨negation.symm, path.symm, Value.same_text_iff.2 text.symm⟩
  | mark equality inequality marks opposite =>
    obtain ⟨field, op, value⟩ := e
    obtain ⟨other, op', value'⟩ := d
    obtain rfl : op = .equal := Operator.token_injective equality
    obtain rfl : op' = .notEqual := Operator.token_injective inequality
    obtain ⟨m, made, truth⟩ := namedCondition_of_marks marks
    obtain ⟨n, made', truth'⟩ := namedCondition_of_marks opposite
    have twice : m.truthy = (Value.flag (!n.truthy)).truthy := by
      rw [Value.truthy_flag, truth, truth', Bool.not_not]
    refine ⟨nofun, _, _, made, congrArg (Except.map Condition.negate) made', ?_, ?_⟩
    · exact Condition.same_blank_iff.2 ⟨rfl, twice⟩
    · exact Condition.same_blank_iff.2 ⟨rfl, twice.symm⟩

end Expression

/-- Two clauses that an endpoint without a list of fields and inside names reads can ask for equal
conditions only if their operators compare in the same way: exactly if neither disguises the
other. -/
theorem comparison_of_same_iff {c : Capability} (unlimited : c.filterable = none)
    (unmapped : c.mappings = []) {s t : Option Text} {f g : FilterClause}
    (hf : f ∈ (Request.readFilters s c).filters) (hg : g ∈ (Request.readFilters t c).filters) :
    (∀ q r, f.condition = .ok q → g.condition = .ok r → q.same r = true →
      f.comparison? = g.comparison?) ↔ ¬ f.Disguises g ∧ ¬ g.Disguises f := by
  obtain ⟨item, -, accepted⟩ := Request.mem_readFilters_iff.1 hf
  obtain ⟨e, -, rfl⟩ := (judgeFilter_eq_iff unlimited unmapped).1 accepted
  obtain ⟨item', -, accepted'⟩ := Request.mem_readFilters_iff.1 hg
  obtain ⟨d, -, rfl⟩ := (judgeFilter_eq_iff unlimited unmapped).1 accepted'
  simp only [Expression.comparison?_clause, Option.some.injEq]
  constructor
  · intro told
    refine ⟨fun disguises => ?_, fun disguises => ?_⟩
    · obtain ⟨apart, q, r, first, second, same, -⟩ := Expression.conditions_of_disguises disguises
      exact apart (told q r first second same)
    · obtain ⟨apart, r, q, second, first, -, same⟩ := Expression.conditions_of_disguises disguises
      exact apart (told q r first second same).symm
  · rintro ⟨undisguised, undisguised'⟩ q r first second same
    rcases (Expression.builds_of_condition first).comparison_of_same
      (Expression.builds_of_condition second) same with compared | disguises | disguises
    · exact compared
    · exact absurd disguises undisguised
    · exact absurd disguises undisguised'

/-- A field that ends with a name, beside an order of another name. -/
theorem comparison_of_same_apart :
    let f := FilterClause.ofOperator "price__gt" .equal (.text "5")
    let g := FilterClause.ofOperator "price" .greaterOrEqual (.text "5")
    f ∈ (Request.readFilters (some "price__gt==5".toList) {}).filters ∧
      g ∈ (Request.readFilters (some "price>=5".toList) {}).filters ∧
      ∀ q r, f.condition = .ok q → g.condition = .ok r → q.same r = true →
        f.comparison? = g.comparison? := by
  intro f g
  have hf : f ∈ (Request.readFilters (some "price__gt==5".toList) {}).filters :=
    List.mem_cons_self
  have hg : g ∈ (Request.readFilters (some "price>=5".toList) {}).filters :=
    List.mem_cons_self
  refine ⟨hf, hg, (comparison_of_same_iff rfl rfl hf hg).2 ⟨?_, ?_⟩⟩
  · rintro (⟨equality, equates, compared, named, path, negation, value⟩ | ⟨-, inequality, -, -⟩)
    · obtain rfl := Operator.token_injective (a := .greaterOrEqual) compared
      exact absurd path (by decide)
    · exact absurd inequality (by decide)
  · rintro (⟨equality, equates, compared, named, path, negation, value⟩ | ⟨equality, -, -, -⟩)
    · obtain rfl := Operator.token_injective (a := .greaterOrEqual) equality
      exact absurd equates (by unfold Operator.Equates; decide)
    · exact absurd equality (by decide)

/-- Equality on a field that ends with the name of an order asks for that order. -/
theorem comparison_of_same_disguised_fails :
    let f := FilterClause.ofOperator "price__gt" .equal (.text "5")
    let g := FilterClause.ofOperator "price" .greaterThan (.text "5")
    f ∈ (Request.readFilters (some "price__gt==5".toList) {}).filters ∧
      g ∈ (Request.readFilters (some "price>5".toList) {}).filters ∧
      (∃ q, f.condition = .ok q ∧ g.condition = .ok q ∧ q.same q = true) ∧
      f.comparison? = some .equal ∧ g.comparison? = some .greaterThan :=
  ⟨List.mem_cons_self, List.mem_cons_self,
    ⟨_, rfl, rfl, Condition.same_single_iff.2 ⟨rfl, rfl, Value.same_text_iff.2 rfl⟩⟩, rfl, rfl⟩

end Listing
