import Listing.Proofs.CommaList
import Listing.Proofs.Enforcement
import Listing.Render

/-!
# Written filters

Filters that were read are written as a list and read again. The list is split into the same
items if no field has a comma, and each item is decided as the one it came from:
`readFilters_filtersText`. The other way, a list that gives back its clauses has no comma in a
field, since a comma there is lost with the separators: `comma_not_mem_of_reread`.
-/

namespace Listing

/-! ## Items of a written list -/

namespace Operator

theorem comma_not_mem_token (op : Operator) : ',' ∉ op.token := by
  cases op <;> decide

theorem getLast?_token (op : Operator) : op.token.getLast? ≠ some '\\' := by
  cases op <;> decide

theorem getLast?_append_token (op : Operator) (t : Text) :
    (t ++ op.token).getLast? ≠ some '\\' := by
  rw [List.getLast?_append]
  cases final : op.token.getLast? with
  | none => exact absurd (List.getLast?_eq_none_iff.1 final) op.token_ne_nil
  | some d =>
    intro last
    exact op.getLast?_token (final.trans last)

end Operator

namespace FilterClause

/-- The expression that a clause is read from: its parts without escapes. -/
def plain (f : FilterClause) : Text :=
  f.field ++ f.token ++ f.value.toText

/-- A clause with an operator of the grammar and a field that needs no escape. -/
structure Writable (f : FilterClause) : Prop where
  operator : ∃ op : Operator, op.token = f.token
  noComma : ',' ∉ f.field

instance (f : FilterClause) : Decidable f.Writable :=
  decidable_of_iff ((Operator.ofToken? f.token).isSome = true ∧ ',' ∉ f.field) (by
    constructor
    · rintro ⟨known, noComma⟩
      obtain ⟨op, found⟩ := Option.isSome_iff_exists.1 known
      exact ⟨⟨op, Operator.ofToken?_eq_some_iff.1 found⟩, noComma⟩
    · rintro ⟨⟨op, same⟩, noComma⟩
      exact ⟨Option.isSome_iff_exists.2 ⟨op, Operator.ofToken?_eq_some_iff.2 same⟩, noComma⟩)

theorem Writable.comma_not_mem {f : FilterClause} (h : f.Writable) : ',' ∉ f.field ++ f.token := by
  obtain ⟨op, same⟩ := h.operator
  rw [← same]
  intro comma
  rcases List.mem_append.1 comma with comma | comma
  · exact h.noComma comma
  · exact op.comma_not_mem_token comma

theorem Writable.unescape_text {f : FilterClause} (h : f.Writable) :
    CommaList.unescape f.text = f.plain :=
  CommaList.unescape_append_escape h.comma_not_mem f.value.toText

theorem Writable.whole_text {f : FilterClause} (h : f.Writable) :
    CommaList.whole false f.text = true := by
  rw [text, CommaList.whole_append, CommaList.whole_of_not_mem _ h.comma_not_mem,
    CommaList.whole_escape]
  rfl

theorem getLast?_text (f : FilterClause) : f.text.getLast? = f.plain.getLast? := by
  rw [text, plain, List.getLast?_append, CommaList.getLast?_escape, ← List.getLast?_append]

theorem Writable.plain_ne_nil {f : FilterClause} (h : f.Writable) : f.plain ≠ [] := by
  obtain ⟨op, same⟩ := h.operator
  intro empty
  have token : f.token = [] :=
    (List.append_eq_nil_iff.1 (List.append_eq_nil_iff.1 empty).1).2
  exact op.token_ne_nil (same.trans token)

end FilterClause

/-- A written list of filters is split into the expressions of its clauses, unless one that is
not the last ends with a backslash. -/
theorem splitFilters_filtersText {filters : List FilterClause}
    (writable : ∀ f ∈ filters, f.Writable)
    (closed : filters.Pairwise fun f _ => f.plain.getLast? ≠ some '\\') :
    CommaList.splitFilters (filtersText filters) = filters.map FilterClause.plain := by
  cases filters with
  | nil => rfl
  | cons first more =>
    have wholes : ∀ t ∈ (first :: more).map FilterClause.text, CommaList.whole false t = true := by
      intro t ht
      obtain ⟨f, hf, rfl⟩ := List.mem_map.1 ht
      exact (writable f hf).whole_text
    -- Escaping does not touch the last character, so the text ends as the expression does.
    have closedTexts : ((first :: more).map FilterClause.text).Pairwise
        fun t _ => t.getLast? ≠ some '\\' := by
      refine List.pairwise_map.2 (closed.imp fun {f} _ last => ?_)
      rw [f.getLast?_text]
      exact last
    have written : filtersText (first :: more) ≠ [] := by
      refine joinWith_cons_ne_nil (fun empty => ?_) (more.map FilterClause.text)
      have plain := (writable first List.mem_cons_self).unescape_text
      rw [empty] at plain
      exact (writable first List.mem_cons_self).plain_ne_nil plain.symm
    rw [filtersText, CommaList.splitFilters_joinWith written wholes closedTexts, List.map_map]
    exact List.map_congr_left fun f hf => (writable f hf).unescape_text

/-- The expressions are its items, as none of them is empty. -/
theorem filterItems_filtersText {filters : List FilterClause}
    (writable : ∀ f ∈ filters, f.Writable)
    (closed : filters.Pairwise fun f _ => f.plain.getLast? ≠ some '\\') :
    Request.filterItems (some (filtersText filters)) = filters.map FilterClause.plain := by
  rw [Request.filterItems, Option.getD_some, splitFilters_filtersText writable closed,
    List.filter_eq_self]
  intro t ht
  obtain ⟨f, hf, rfl⟩ := List.mem_map.1 ht
  exact decide_eq_true (writable f hf).plain_ne_nil

/-! ## Decisions inside and outside -/

/-- A clause under another name for its field. -/
def FilterClause.rename (name : Text → Text) (f : FilterClause) : FilterClause :=
  { f with field := name f.field }

namespace Request

/-- A decision with the clause under another name for its field. -/
def Verdict.rename (name : Text → Text) : Verdict → Verdict
  | .accepted f => .accepted (f.rename name)
  | v => v

theorem typedClause_eq_rename (c : Capability) (declared : Option ValueType) (e : Expression) :
    typedClause c declared e = (typedClause c.outside declared e).rename c.inside := by
  unfold typedClause
  cases e.op.checksNull with
  | true => rfl
  | false =>
    cases ValueType.coerce declared e.value with
    | ok v => rfl
    | error why => rfl

/-- Inside names change the field of a clause and nothing else. -/
theorem judgeFilter_eq_rename (c : Capability) (item : Text) :
    judgeFilter c item = (judgeFilter c.outside item).rename c.inside := by
  unfold judgeFilter
  cases Expression.read? item with
  | none => rfl
  | some e =>
    show judgeExpression c e = (judgeExpression c.outside e).rename c.inside
    unfold judgeExpression
    rw [show c.outside.filterable = c.filterable from rfl]
    cases c.filterable with
    | none => exact typedClause_eq_rename c none e
    | some rules =>
      cases found : Capability.ruleFor? rules e.field with
      | none => simp [found, Verdict.rename]
      | some rule =>
        by_cases allowed : e.op.token ∈ rule.operators
        · simpa [found, allowed] using typedClause_eq_rename c rule.declared e
        · simp [found, allowed, Verdict.rename]

/-- The clause of a decision that accepts. -/
def Verdict.clause? : Verdict → Option FilterClause
  | .accepted f => some f
  | _ => none

theorem Verdict.clause?_eq_some_iff {v : Verdict} {f : FilterClause} :
    v.clause? = some f ↔ v = .accepted f := by
  cases v <;> simp [clause?]

theorem Verdict.clause?_rename (name : Text → Text) (v : Verdict) :
    (v.rename name).clause? = v.clause?.map (·.rename name) := by
  cases v <;> rfl

/-- The clauses of a list of filters, item by item. -/
theorem filters_eq_filterMap (raw : Option Text) (c : Capability) :
    (readFilters raw c).filters =
      (filterItems raw).filterMap fun item => (judgeFilter c item).clause? := by
  unfold readFilters Filtering.ofVerdicts
  rw [List.filterMap_map]
  refine congrArg (fun g => List.filterMap g (filterItems raw)) (funext fun item => ?_)
  rw [Function.comp]
  cases judgeFilter c item <;> rfl

theorem mem_readFilters_iff {raw : Option Text} {c : Capability} {f : FilterClause} :
    f ∈ (readFilters raw c).filters ↔
      ∃ item ∈ filterItems raw, judgeFilter c item = .accepted f := by
  rw [filters_eq_filterMap, List.mem_filterMap]
  simp only [Verdict.clause?_eq_some_iff]

/-- The clauses under a capability are those of its outside, renamed. -/
theorem filters_eq_rename (raw : Option Text) (c : Capability) :
    (readFilters raw c).filters = (readFilters raw c.outside).filters.map (·.rename c.inside) := by
  rw [filters_eq_filterMap, filters_eq_filterMap, List.map_filterMap]
  refine congrArg (fun g => List.filterMap g (filterItems raw)) (funext fun item => ?_)
  rw [judgeFilter_eq_rename, Verdict.clause?_rename]

/-! ## Reading what was written -/

end Request

namespace Capability

/-- No field declares numbers, so each value is kept as its text. -/
def KeepsTexts (c : Capability) : Prop :=
  ∀ rules, c.filterable = some rules → ∀ rule ∈ rules, rule.declared ≠ some .number

theorem KeepsTexts.declared {c : Capability} (keeps : c.KeepsTexts) {e : Expression}
    {declared : Option ValueType} (grants : c.Grants e declared) : declared ≠ some .number := by
  unfold Grants at grants
  cases listed : c.filterable with
  | none =>
    rw [listed] at grants
    rw [show declared = none from grants]
    simp
  | some rules =>
    rw [listed] at grants
    obtain ⟨rule, ⟨before, after, split, -⟩, -, rfl⟩ := grants
    exact keeps rules listed rule (by simp [split])

end Capability

/-- A value that is no number is a flag or a text, and is written as it was given. -/
theorem ValueType.coerce_facts {declared : Option ValueType} (noNumber : declared ≠ some .number)
    {raw : Text} {v : Value} (h : coerce declared raw = .ok v) :
    v.toText = raw ∧ v.writable = true := by
  unfold coerce at h
  split at h
  · by_cases yes : raw = "true".toList
    · rw [if_pos yes] at h
      rw [← Except.ok.inj h, yes]
      exact ⟨rfl, rfl⟩
    · by_cases no : raw = "false".toList
      · rw [if_neg yes, if_pos no] at h
        rw [← Except.ok.inj h, no]
        exact ⟨rfl, rfl⟩
      · rw [if_neg yes, if_neg no] at h
        contradiction
  · exact absurd rfl noNumber
  · rw [← Except.ok.inj h]
    exact ⟨rfl, rfl⟩
  · rw [← Except.ok.inj h]
    exact ⟨rfl, rfl⟩

namespace Request

/-- An accepted item is cut into the field and the operator of its clause, and the value is the
text of the clause's, unless the operator checks for null and the rest does not matter. -/
theorem cut_of_accepted {c : Capability} (keeps : c.KeepsTexts) {item : Text} {f : FilterClause}
    (h : judgeFilter c.outside item = .accepted f) :
    ∃ e : Expression, e.Cut item ∧ f.field = e.field ∧ f.token = e.op.token ∧
      (f.value.toText = e.value ∨ e.op.checksNull = true ∧ f.value.toText = []) := by
  cases decides_iff.2 h with
  | @clause e declared v cut grants value =>
    refine ⟨e, cut, rfl, rfl, ?_⟩
    cases value with
    | null null => exact .inr ⟨null, rfl⟩
    | coerced _ coerced => exact .inl (ValueType.coerce_facts (keeps.declared grants) coerced).1

/-- The value of an accepted clause can be written: it is a text or a flag, or nothing. -/
theorem writable_of_accepted {c : Capability} (keeps : c.KeepsTexts) {item : Text}
    {f : FilterClause} (h : judgeFilter c item = .accepted f) : f.value.writable = true := by
  cases decides_iff.2 h with
  | clause cut grants value =>
    cases value with
    | null null => rfl
    | coerced _ coerced => exact (ValueType.coerce_facts (keeps.declared grants) coerced).2

theorem judgeExpression_of_checksNull (c : Capability) {e : Expression}
    (null : e.op.checksNull = true) (value : Text) :
    judgeExpression c { e with value } = judgeExpression c e := by
  simp [judgeExpression, typedClause, null]

/-- The expression of an accepted clause is decided as the item that it was read from. -/
theorem judgeFilter_plain {c : Capability} (keeps : c.KeepsTexts) {item : Text} {f : FilterClause}
    (h : judgeFilter c.outside item = .accepted f) :
    judgeFilter c f.plain = .accepted (f.rename c.inside) := by
  have renamed : judgeFilter c item = .accepted (f.rename c.inside) := by
    rw [judgeFilter_eq_rename, h]
    rfl
  obtain ⟨e, cut, field, token, value⟩ := cut_of_accepted keeps h
  rw [← renamed, FilterClause.plain, field, token]
  rcases value with value | ⟨null, value⟩
  · rw [value, show e.field ++ e.op.token ++ e.value = item from cut.text]
  · -- What stood after a null check is gone, but the cut is still at the same place.
    have short := cut.shorten (List.nil_prefix (l := e.value))
    rw [value, judgeFilter, Expression.read?_eq_some_iff.2 short, judgeFilter,
      Expression.read?_eq_some_iff.2 cut]
    exact judgeExpression_of_checksNull c null []

/-- Only the last clause can end with a backslash, as only the last item can. -/
theorem filters_closed {c : Capability} (keeps : c.KeepsTexts) (raw : Option Text) :
    (readFilters raw c.outside).filters.Pairwise fun f _ => f.plain.getLast? ≠ some '\\' := by
  rw [filters_eq_filterMap]
  refine List.Pairwise.filterMap _ ?_ ((CommaList.splitFilters_closed (raw.getD [])).filter _)
  intro item _ closed f accepted _ _ last
  obtain ⟨e, cut, field, token, value⟩ :=
    cut_of_accepted keeps (Verdict.clause?_eq_some_iff.1 accepted)
  rw [FilterClause.plain, field, token] at last
  rcases value with value | ⟨-, value⟩
  · rw [value, show e.field ++ e.op.token ++ e.value = item from cut.text] at last
    exact closed last
  · rw [value, List.append_nil] at last
    exact e.op.getLast?_append_token e.field last

theorem writable_of_mem {c : Capability} (keeps : c.KeepsTexts) {raw : Option Text}
    (noCommas : ∀ f ∈ (readFilters raw c.outside).filters, ',' ∉ f.field) :
    ∀ f ∈ (readFilters raw c.outside).filters, f.Writable := by
  intro f hf
  obtain ⟨item, -, judged⟩ := mem_readFilters_iff.1 hf
  obtain ⟨e, -, -, token, -⟩ := cut_of_accepted keeps judged
  exact ⟨⟨e.op, token.symm⟩, noCommas f hf⟩

theorem ofVerdicts_accepted (filters : List FilterClause) :
    Filtering.ofVerdicts (filters.map .accepted) = ⟨filters, [], []⟩ := by
  induction filters with
  | nil => rfl
  | cons f more ih =>
    simp only [Filtering.ofVerdicts, Filtering.mk.injEq] at ih
    simp [Filtering.ofVerdicts, ih]

/-- Written filters are read again without a fault or a warning, under the capability or under
its outside. -/
theorem readFilters_filtersText {c : Capability} (keeps : c.KeepsTexts) (raw : Option Text)
    (noCommas : ∀ f ∈ (readFilters raw c.outside).filters, ',' ∉ f.field) :
    readFilters (some (filtersText (readFilters raw c.outside).filters)) c =
      ⟨(readFilters raw c).filters, [], []⟩ := by
  have items := filterItems_filtersText (writable_of_mem keeps noCommas) (filters_closed keeps raw)
  have judged : ((readFilters raw c.outside).filters.map FilterClause.plain).map (judgeFilter c) =
      (readFilters raw c).filters.map .accepted := by
    rw [filters_eq_rename raw c, List.map_map, List.map_map]
    apply List.map_congr_left
    intro f hf
    obtain ⟨item, -, accepted⟩ := mem_readFilters_iff.1 hf
    exact judgeFilter_plain keeps accepted
  rw [readFilters, items, judged, ofVerdicts_accepted]

end Request

/-! ## Commas in fields are lost -/

/-- What is kept of a list weighs no more than the list. -/
theorem sum_filterMap_le {α β : Type} {keep : α → Option β} {weight : β → Nat} {bound : α → Nat}
    (l : List α) (le : ∀ a ∈ l, ∀ b, keep a = some b → weight b ≤ bound a) :
    ((l.filterMap keep).map weight).sum ≤ (l.map bound).sum := by
  induction l with
  | nil => exact Nat.le_refl 0
  | cons a rest ih =>
    have later := ih fun x hx => le x (List.mem_cons_of_mem a hx)
    rw [List.map_cons, List.sum_cons]
    cases kept : keep a with
    | none =>
      rw [List.filterMap_cons_none kept]
      omega
    | some b =>
      have first := le a List.mem_cons_self b kept
      rw [List.filterMap_cons_some kept, List.map_cons, List.sum_cons]
      omega

/-- The expression of a clause is no longer than the item that it was read from. -/
theorem length_plain_le {c : Capability} (keeps : c.KeepsTexts) {item : Text} {f : FilterClause}
    (h : Request.judgeFilter c.outside item = .accepted f) : f.plain.length ≤ item.length := by
  obtain ⟨e, cut, field, token, value⟩ := Request.cut_of_accepted keeps h
  rw [FilterClause.plain, field, token, ← cut.text, Expression.text]
  rcases value with value | ⟨-, value⟩
  · exact Nat.le_of_eq (by rw [value])
  · rw [value, List.append_nil]
    exact (List.prefix_append _ _).length_le

/-- Clauses that come back from their written list have no comma in a field: the list without its
commas is as long as its items together, and the clauses need all of it. -/
theorem comma_not_mem_of_reread {c : Capability} (keeps : c.KeepsTexts)
    {filters : List FilterClause}
    (reread : (Request.readFilters (some (filtersText filters)) c.outside).filters = filters) :
    ∀ f ∈ filters, ',' ∉ f.field := by
  have needed : (filters.map fun f => f.plain.length).sum ≤
      CommaList.solid (filtersText filters) := by
    rw [← CommaList.length_splitFilters]
    conv => lhs; rw [← reread, Request.filters_eq_filterMap]
    rw [Request.filterItems, List.filterMap_filter]
    apply sum_filterMap_le _
    intro item _ f kept
    have accepted := (Option.ite_none_right_eq_some.1 kept).2
    exact length_plain_le keeps (Request.Verdict.clause?_eq_some_iff.1 accepted)
  have written : CommaList.solid (filtersText filters) =
      (filters.map fun f => CommaList.solid f.text).sum := by
    rw [filtersText, CommaList.solid_joinWith, List.map_map]
    rfl
  have parts (f : FilterClause) : CommaList.solid f.text =
      CommaList.solid f.field + CommaList.solid f.token + f.value.toText.length := by
    rw [FilterClause.text, CommaList.solid_append, CommaList.solid_append, CommaList.solid_escape]
  have whole (f : FilterClause) : f.plain.length =
      f.field.length + f.token.length + f.value.toText.length := by
    rw [FilterClause.plain, List.length_append, List.length_append]
  have le (f : FilterClause) : CommaList.solid f.text ≤ f.plain.length := by
    have field := CommaList.solid_le_length f.field
    have token := CommaList.solid_le_length f.token
    rw [parts, whole]
    omega
  intro f hf comma
  have lost : CommaList.solid f.field < f.field.length :=
    Nat.lt_of_le_of_ne (CommaList.solid_le_length f.field) fun same =>
      CommaList.solid_eq_length_iff.1 same comma
  have shorter : CommaList.solid f.text < f.plain.length := by
    have token := CommaList.solid_le_length f.token
    rw [parts, whole]
    omega
  -- One comma lost anywhere makes the written list too short for its clauses.
  have less := List.sum_lt_sum _ _ (fun g _ => le g) ⟨f, hf, shorter⟩
  omega

end Listing
