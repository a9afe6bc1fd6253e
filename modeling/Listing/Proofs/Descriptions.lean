import Listing.Proofs.Patches

/-!
# Queries as members

A query as a dictionary names its parts for a client, and the same dictionary can be put on a query
as a patch. The two sides use names of their own: those of the parts, of the members of a clause, of
directions and of operators.

* **reading a record**: a clause is what its record describes, if its operator is one
  (`FilterClause.toClause_toSpec_iff`);
* **faithfulness**: the members of a query, put on any query, give it back exactly if it is
  `Describable`, and different queries have different members (`description_faithful`).
-/

namespace Listing

/-! ## Clauses -/

/-- Items that are each made from what describes them. -/
theorem mapM_map_eq_ok_iff {α β : Type} {describe : α → β} {make : β → Except Failure α}
    {items : List α} : (items.map describe).mapM make = .ok items ↔
      ∀ item ∈ items, make (describe item) = .ok item := by
  induction items with
  | nil => simp [pure, Except.pure]
  | cons item rest ih =>
    rw [List.map_cons, List.mapM_cons, List.forall_mem_cons, ← ih]
    simp only [bind_eq_ok_iff]
    constructor
    · rintro ⟨made, first, others, later, same⟩
      cases same
      exact ⟨first, later⟩
    · intro ⟨first, later⟩
      exact ⟨item, first, rest, later, rfl⟩

theorem SortClause.mapM_toClause_toSpec (sorts : List SortClause) :
    (sorts.map toSpec).mapM SortSpec.toClause = .ok sorts :=
  mapM_map_eq_ok_iff.2 fun c _ => c.toClause_toSpec

/-- A filter clause is what its members describe exactly if its operator is one. -/
theorem FilterClause.toClause_toSpec_iff {f : FilterClause} :
    f.toSpec.toClause = .ok f ↔ ∃ op : Operator, f.token = op.token := by
  have made : f.toSpec.toClause =
      (Operator.ofToken f.token >>= fun op => Except.ok { f with token := op.token }) := rfl
  rw [made, Operator.ofToken]
  constructor
  · intro described
    cases named : Operator.ofToken? f.token with
    | none =>
      rw [named] at described
      cases described
    | some op => exact ⟨op, (Operator.ofToken?_eq_some_iff.1 named).symm⟩
  · intro ⟨op, token⟩
    rw [token, Operator.ofToken?_token]
    show Except.ok { f with token := op.token } = _
    rw [← token]

/-! ## Members of a query -/

/-- A query that a patch can describe: page and page size are at least one, and every operator is
one of the grammar. The sorts, the values and the flags may be any. -/
structure Query.Describable (q : Query) : Prop where
  page : q.page.less 1 = false
  pageSize : q.pageSize.less 1 = false
  tokens : ∀ f ∈ q.filters, ∃ op : Operator, f.token = op.token

theorem Query.ofMembers_description (q : Query) : Patch.ofMembers q.description = q.toPatch := by
  have sorts : (q.sorts.map SortClause.record).map SortSpec.ofValue =
      q.sorts.map SortClause.toSpec := by
    simp [SortSpec.ofValue_record]
  have filters : (q.filters.map FilterClause.record).map FilterSpec.ofValue =
      q.filters.map FilterClause.toSpec := by
    simp [FilterSpec.ofValue_record]
  rw [Query.toPatch, ← sorts, ← filters]
  rfl

/-- The members of a query, put on any query, give it back exactly if they can describe it. -/
theorem Query.merge_description_iff (q c : Query) :
    c.merge (.ofMembers q.description) = .ok q ↔ q.Describable := by
  rw [ofMembers_description, merge_eq_ok_iff]
  constructor
  · intro ⟨allowed, same⟩
    simp only [toPatch, List.forall_mem_cons] at allowed
    obtain ⟨page, pageSize, -, ⟨clauses, described⟩, -⟩ := allowed
    have filters : clauses = q.filters := by
      have said := congrArg Query.filters same
      simpa [toPatch, Patch.update, Patch.last, Change.update, Update.on, described,
        Except.toOption] using said
    refine ⟨page, pageSize, fun f hf => FilterClause.toClause_toSpec_iff.1 ?_⟩
    exact mapM_map_eq_ok_iff.1 (filters ▸ described) f hf
  · intro describable
    have sorts := SortClause.mapM_toClause_toSpec q.sorts
    have filters : (q.filters.map FilterClause.toSpec).mapM FilterSpec.toClause = .ok q.filters :=
      mapM_map_eq_ok_iff.2 fun f hf => FilterClause.toClause_toSpec_iff.2 (describable.tokens f hf)
    constructor
    · simp only [toPatch, List.forall_mem_cons]
      exact ⟨describable.page, describable.pageSize, ⟨_, sorts⟩, ⟨_, filters⟩,
        List.forall_mem_nil _⟩
    · simp [toPatch, Patch.update, Patch.last, Change.update, Update.on, sorts, filters,
        Except.toOption]

/-! ## Equality of members -/

theorem Direction.word_injective : Function.Injective Direction.word := by
  intro d e same
  cases d <;> cases e <;> first | rfl | contradiction

theorem SortClause.record_injective : Function.Injective SortClause.record := by
  intro c d same
  obtain ⟨field, direction⟩ := c
  obtain ⟨otherField, otherDirection⟩ := d
  simp only [record, Value.dict.injEq, List.cons.injEq, Prod.mk.injEq, Value.text.injEq] at same
  obtain ⟨⟨-, rfl⟩, ⟨-, words⟩, -⟩ := same
  rw [Direction.word_injective words]

theorem FilterClause.record_injective : Function.Injective FilterClause.record := by
  intro f g same
  cases f
  cases g
  simp_all [record]

/-- Queries with the same members are the same. -/
theorem Query.description_injective : Function.Injective Query.description := by
  intro q r same
  simp only [description, List.cons.injEq, Prod.mk.injEq, Value.number.injEq, Value.list.injEq,
    true_and, and_true] at same
  obtain ⟨page, pageSize, sorts, filters⟩ := same
  have sorts := (List.map_inj_right fun _ _ h => SortClause.record_injective h).1 sorts
  have filters := (List.map_inj_right fun _ _ h => FilterClause.record_injective h).1 filters
  cases q
  cases r
  simp_all

theorem SortClause.same_record (c d : SortClause) : c.record.same d.record = decide (c = d) := by
  have words : c.direction.word = d.direction.word ↔ c.direction = d.direction :=
    ⟨fun same => Direction.word_injective same, congrArg Direction.word⟩
  cases c
  cases d
  simp_all [record, Value.same, Value.sameMembers, List.lookup_cons]

theorem FilterClause.same_record (f g : FilterClause) : f.record.same g.record = f.same g := by
  simp [record, same, Value.same, Value.sameMembers, List.lookup_cons, Bool.and_assoc]

theorem SortClause.sameItems_records (sorts others : List SortClause) :
    Value.sameItems (sorts.map record) (others.map record) = decide (sorts = others) := by
  induction sorts generalizing others with
  | nil => cases others <;> simp [Value.sameItems]
  | cons c rest ih =>
    cases others with
    | nil => simp [Value.sameItems]
    | cons d rest' => simp [Value.sameItems, same_record, ih]

theorem FilterClause.sameItems_records (filters others : List FilterClause) :
    Value.sameItems (filters.map record) (others.map record) =
      Query.sameFilters filters others := by
  induction filters generalizing others with
  | nil => cases others <;> simp [Value.sameItems, Query.sameFilters]
  | cons f rest ih =>
    cases others with
    | nil => simp [Value.sameItems, Query.sameFilters]
    | cons g rest' => simp [Value.sameItems, Query.sameFilters, same_record, ih]

/-- The members of two queries are equal exactly if the queries are. -/
theorem Query.same_description (q r : Query) :
    (Value.dict q.description).same (.dict r.description) = q.same r := by
  simp [description, same, Value.same, Value.sameMembers, List.lookup_cons, Bool.and_assoc,
    SortClause.sameItems_records, FilterClause.sameItems_records]

/-- The members of a query are a faithful encoding of it. Put on a query as a patch they give back
the query they are of, with nothing of the other, exactly if it can be described. And they are the
same, or equal, for two queries only if those are. -/
theorem Query.description_faithful :
    (∀ q c : Query, c.merge (.ofMembers q.description) = .ok q ↔ q.Describable) ∧
      Function.Injective description ∧
      ∀ q r : Query, (Value.dict q.description).same (.dict r.description) = q.same r :=
  ⟨merge_description_iff, description_injective, same_description⟩

end Listing
