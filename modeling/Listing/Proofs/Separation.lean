import Listing.Proofs.RoundTrip

/-!
# What comes back from a written list

Clauses with comma-free fields are written as a list that is split into their expressions exactly
if no value but the last ends with a backslash: `splitFilters_filtersText_iff`. The writer escapes
the commas of a value and not its backslashes, so a value that ends with one takes the separator
after it for an escaped comma.

An open endpoint reads the very clauses back exactly if each of them, besides, can be cut out of
its own expression: `readFilters_filtersText_iff`. Sorts have no escapes, and what comes back of
them depends on each name alone: `readSorts_sortsText_iff`.
-/

namespace Listing

/-- What does not look at the later elements holds of all elements but the last. -/
theorem pairwise_left_iff {α : Type} {P : α → Prop} {l : List α} :
    (l.Pairwise fun a _ => P a) ↔ ∀ a ∈ l.dropLast, P a := by
  induction l with
  | nil => simp
  | cons a rest ih =>
    cases rest with
    | nil => simp
    | cons b more =>
      rw [List.pairwise_cons, ih, List.dropLast_cons_cons]
      constructor
      · rintro ⟨first, later⟩
        exact List.forall_mem_cons.2 ⟨first b List.mem_cons_self, later⟩
      · intro all
        obtain ⟨first, later⟩ := List.forall_mem_cons.1 all
        exact ⟨fun _ _ => first, later⟩

/-! ## Splitting -/

namespace FilterClause

/-- A value that would take the separator after it for a part of itself. -/
def EndsWithBackslash (f : FilterClause) : Prop :=
  f.value.toText.getLast? = some '\\'

instance : DecidablePred EndsWithBackslash :=
  fun f => inferInstanceAs (Decidable (f.value.toText.getLast? = some '\\'))

theorem Writable.getLast?_plain_iff {f : FilterClause} (h : f.Writable) :
    f.plain.getLast? = some '\\' ↔ f.EndsWithBackslash := by
  obtain ⟨op, same⟩ := h.operator
  rw [plain, EndsWithBackslash, List.getLast?_append, ← same]
  cases final : f.value.toText.getLast? with
  | none => exact iff_of_false (op.getLast?_append_token f.field) (by simp)
  | some c => rfl

end FilterClause

theorem closed_iff {filters : List FilterClause} (writable : ∀ f ∈ filters, f.Writable) :
    (filters.Pairwise fun f _ => f.plain.getLast? ≠ some '\\') ↔
      ∀ f ∈ filters.dropLast, ¬ f.EndsWithBackslash := by
  rw [pairwise_left_iff]
  refine forall₂_congr fun f hf => not_congr ?_
  exact (writable f (List.mem_of_mem_dropLast hf)).getLast?_plain_iff

/-- Clauses with comma-free fields are written as a list that is split into their expressions, one
for each and in order, exactly if no value but the last ends with a backslash. -/
theorem splitFilters_filtersText_iff {filters : List FilterClause}
    (writable : ∀ f ∈ filters, f.Writable) :
    CommaList.splitFilters (filtersText filters) = filters.map FilterClause.plain ↔
      ∀ f ∈ filters.dropLast, ¬ f.EndsWithBackslash := by
  rw [← closed_iff writable]
  constructor
  · intro split
    -- Nothing that was split ends with a backslash, except for the last item.
    have items := CommaList.splitFilters_closed (filtersText filters)
    rw [split, List.pairwise_map] at items
    exact items
  · exact splitFilters_filtersText writable

/-- Clauses with commas and backslashes in their values, a null check between them. -/
def escapedClauses : List FilterClause :=
  [.ofOperator "path" .contains (.text "a,\\,\\\\b,"), .ofOperator "deleted" .isNull .null,
   .ofOperator "name" .equal (.text ",c\\")]

theorem writable_escapedClauses : ∀ f ∈ escapedClauses, f.Writable := by
  decide

theorem closed_escapedClauses : ∀ f ∈ escapedClauses.dropLast, ¬ f.EndsWithBackslash := by
  decide

theorem splitFilters_filtersText_escaped :
    (∀ f ∈ escapedClauses, f.Writable) ∧ CommaList.splitFilters (filtersText escapedClauses) =
      ["path@=a,\\,\\\\b,".toList, "deleted==null".toList, "name==,c\\".toList] :=
  ⟨writable_escapedClauses,
    (splitFilters_filtersText_iff writable_escapedClauses).2 closed_escapedClauses⟩

/-- Two clauses of which the first one ends with a backslash. -/
def folderClauses : List FilterClause :=
  [.ofOperator "folder" .equal (.text "C:\\"), .ofOperator "name" .equal (.text "x")]

/-- A value that ends with a backslash swallows the clause after it. -/
theorem splitFilters_backslash_fails :
    (∀ f ∈ folderClauses, f.Writable ∧ f.field ≠ []) ∧
    folderClauses.map FilterClause.plain = ["folder==C:\\".toList, "name==x".toList] ∧
    CommaList.splitFilters (filtersText folderClauses) = ["folder==C:,name==x".toList] := by
  decide

/-! ## Reading -/

/-- The clause that an expression stands for where no types are declared. -/
def Expression.clause (e : Expression) : FilterClause :=
  .ofOperator e.field e.op (if e.op.checksNull then .null else .text e.value)

/-- A clause that can be cut out of its own expression: no token begins within its field after the
first character, and its own token is the longest one after the field. Its value is a text, or
nothing for a null check, and its field needs no escape. -/
def FilterClause.Recoverable (f : FilterClause) : Prop :=
  ∃ e : Expression, e.Cut e.text ∧ ',' ∉ e.field ∧ (e.op.checksNull = true → e.value = []) ∧
    f = e.clause

theorem Expression.plain_clause {e : Expression} (null : e.op.checksNull = true → e.value = []) :
    e.clause.plain = e.text := by
  cases checks : e.op.checksNull with
  | true => simp [clause, FilterClause.plain, FilterClause.ofOperator, text, checks, null checks,
      Value.toText]
  | false => simp [clause, FilterClause.plain, FilterClause.ofOperator, text, checks, Value.toText]

theorem FilterClause.Recoverable.writable {f : FilterClause} (h : f.Recoverable) : f.Writable := by
  obtain ⟨e, -, noComma, -, rfl⟩ := h
  exact ⟨⟨e.op, rfl⟩, noComma⟩

section
variable {c : Capability}

/-- Without a list of fields and inside names, what can be cut is accepted, under its own name. -/
theorem judgeFilter_eq_iff (unlimited : c.filterable = none) (unmapped : c.mappings = [])
    {item : Text} {f : FilterClause} :
    Request.judgeFilter c item = .accepted f ↔ ∃ e : Expression, e.Cut item ∧ f = e.clause := by
  have judged (e : Expression) : Request.judgeExpression c e = .accepted e.clause := by
    have named : c.inside e.field = e.field := by rw [Capability.inside, unmapped]; rfl
    rw [Request.judgeExpression, unlimited]
    show Request.typedClause c none e = _
    rw [Request.typedClause, named, Expression.clause]
    cases e.op.checksNull with
    | true => rfl
    | false => rfl
  simp only [← Expression.read?_eq_some_iff]
  unfold Request.judgeFilter
  cases Expression.read? item with
  | none => simp
  | some e =>
    show Request.judgeExpression c e = _ ↔ _
    rw [judged]
    simp [eq_comm]

theorem readFilters_of_recoverable (isOpen : c.Open) {filters : List FilterClause}
    (recoverable : ∀ f ∈ filters, f.Recoverable)
    (closed : ∀ f ∈ filters.dropLast, ¬ f.EndsWithBackslash) :
    Request.readFilters (some (filtersText filters)) c = ⟨filters, [], []⟩ := by
  have writable := fun f hf => (recoverable f hf).writable
  have judged : (filters.map FilterClause.plain).map (Request.judgeFilter c) =
      filters.map .accepted := by
    rw [List.map_map]
    refine List.map_congr_left fun f hf => ?_
    obtain ⟨e, cut, -, null, rfl⟩ := recoverable f hf
    exact (judgeFilter_eq_iff isOpen.filterable isOpen.mappings).2
      ⟨e, Expression.plain_clause null ▸ cut, rfl⟩
  rw [Request.readFilters, filterItems_filtersText writable ((closed_iff writable).2 closed),
    judged, Request.ofVerdicts_accepted]

/-- A clause that was read can be cut out of its own expression: what stands after a null check is
not in it. -/
theorem Capability.Open.recoverable_of_accepted (isOpen : c.Open) {item : Text} {f : FilterClause}
    (accepted : Request.judgeFilter c item = .accepted f) (noComma : ',' ∉ f.field) :
    f.Recoverable := by
  obtain ⟨e, cut, rfl⟩ := (judgeFilter_eq_iff isOpen.filterable isOpen.mappings).1 accepted
  cases checks : e.op.checksNull with
  | true =>
    have short := cut.shorten (List.nil_prefix (l := e.value))
    refine ⟨{ e with value := [] }, short, noComma, fun _ => rfl, ?_⟩
    simp [Expression.clause, checks]
  | false =>
    refine ⟨e, by rw [cut.text]; exact cut, noComma, fun null => ?_, rfl⟩
    rw [checks] at null
    cases null

theorem recoverable_of_reread (isOpen : c.Open) {filters : List FilterClause}
    (reread : (Request.readFilters (some (filtersText filters)) c).filters = filters) :
    (∀ f ∈ filters, f.Recoverable) ∧ ∀ f ∈ filters.dropLast, ¬ f.EndsWithBackslash := by
  have outside :
      (Request.readFilters (some (filtersText filters)) c.outside).filters = filters := by
    rw [isOpen.outside_eq]
    exact reread
  have noCommas := comma_not_mem_of_reread isOpen.keepsTexts outside
  have recoverable : ∀ f ∈ filters, f.Recoverable := by
    intro f hf
    have read : f ∈ (Request.readFilters (some (filtersText filters)) c).filters := by
      rw [reread]
      exact hf
    obtain ⟨item, -, accepted⟩ := Request.mem_readFilters_iff.1 read
    exact isOpen.recoverable_of_accepted accepted (noCommas f hf)
  have closed := Request.filters_closed isOpen.keepsTexts (some (filtersText filters))
  rw [outside] at closed
  exact ⟨recoverable, (closed_iff fun f hf => (recoverable f hf).writable).1 closed⟩

/-- A list of clauses that is written and read again by an open endpoint gives exactly these
clauses, without a fault or a warning, if each can be cut out of its own expression and no value but
the last ends with a backslash; and it gives them in no other case. -/
theorem readFilters_filtersText_iff (isOpen : c.Open) {filters : List FilterClause} :
    Request.readFilters (some (filtersText filters)) c = ⟨filters, [], []⟩ ↔
      (∀ f ∈ filters, f.Recoverable) ∧ ∀ f ∈ filters.dropLast, ¬ f.EndsWithBackslash := by
  constructor
  · intro reread
    exact recoverable_of_reread isOpen (congrArg Request.Filtering.filters reread)
  · rintro ⟨recoverable, closed⟩
    exact readFilters_of_recoverable isOpen recoverable closed

end

/-- An open endpoint reads back the clauses with commas and backslashes. -/
theorem readFilters_filtersText_escaped : ({} : Capability).Open ∧
    Request.readFilters (some (filtersText escapedClauses)) {} = ⟨escapedClauses, [], []⟩ := by
  have recoverable : ∀ f ∈ escapedClauses, f.Recoverable := by
    have cut {item : Text} {e : Expression} (read : Expression.read? item = some e) : e.Cut item :=
      Expression.read?_eq_some_iff.1 read
    intro f hf
    simp only [escapedClauses, List.mem_cons, List.not_mem_nil, or_false] at hf
    rcases hf with rfl | rfl | rfl
    · exact ⟨⟨"path", .contains, "a,\\,\\\\b,"⟩, cut (by decide), by decide, nofun, rfl⟩
    · exact ⟨⟨"deleted", .isNull, []⟩, cut (by decide), by decide, fun _ => rfl, rfl⟩
    · exact ⟨⟨"name", .equal, ",c\\"⟩, cut (by decide), by decide, nofun, rfl⟩
  exact ⟨open_standard,
    (readFilters_filtersText_iff open_standard).2 ⟨recoverable, closed_escapedClauses⟩⟩

/-! ## Sorts -/

section
variable {c : Capability}

/-- An open endpoint drops no item of a list of sorts and adds none. -/
theorem Capability.Open.readSorts_eq (isOpen : c.Open) (raw : Option Text) :
    Request.readSorts raw c = (Request.sortItems raw, []) := by
  have allowed (field : Text) : c.allowsSort field = true := by
    rw [allowsSort, isOpen.sortable]
  have named (field : Text) : c.inside field = field := by
    rw [inside, isOpen.mappings]
    rfl
  rw [Request.readSorts_of_no_default isOpen.defaultSort, Request.partitionSorts_judgeSort]
  simp [allowed, named]

theorem SortClause.listable_iff {s : SortClause} :
    s.Listable ↔ s.field ≠ [] ∧ ',' ∉ s.field ∧ trim s.field = s.field ∧
      (s.direction = .ascending → s.field.head? ≠ some '-') :=
  ⟨fun h => ⟨h.named, h.noComma, trim_eq_self h.trimmed, h.unsigned⟩,
    fun ⟨named, noComma, trimmed, unsigned⟩ =>
      ⟨named, noComma, trimmed_iff.2 trimmed, unsigned⟩⟩

/-- A list of sorts that is written and read again by an open endpoint gives exactly these sorts,
without a warning, if every name is there, has no comma and no blanks around, and no ascending one
begins with a minus sign; and it gives them in no other case. -/
theorem readSorts_sortsText_iff (isOpen : c.Open) (sorts : List SortClause) :
    Request.readSorts (some (sortsText sorts)) c = (sorts, []) ↔
      ∀ s ∈ sorts, s.field ≠ [] ∧ ',' ∉ s.field ∧ trim s.field = s.field ∧
        (s.direction = .ascending → s.field.head? ≠ some '-') := by
  rw [isOpen.readSorts_eq, Prod.mk.injEq, and_iff_left rfl]
  simp only [← SortClause.listable_iff]
  constructor
  · -- Whatever was read from a list can be written.
    intro reread s hs
    rw [← reread] at hs
    exact Request.listable_of_mem_sortItems hs
  · exact sortItems_sortsText

end

/-- A descending name that begins with a minus sign comes back, among others. -/
theorem readSorts_sortsText_minus :
    let sorts : List SortClause := [⟨"-x", .descending⟩, ⟨"created at", .ascending⟩]
    ({} : Capability).Open ∧ sortsText sorts = "--x,created at".toList ∧
      Request.readSorts (some (sortsText sorts)) {} = (sorts, []) :=
  ⟨open_standard, rfl, (readSorts_sortsText_iff open_standard _).2 (by decide)⟩

end Listing
