import Listing.Match
import Listing.Proofs.Execution

/-!
# Forced filters

What a client can do about the filters of the server: nothing. The clauses of a client that a
forced query keeps are those on other fields (`othersOf`), so that its paging, its sorts and those
clauses are all that a client decides.

* **the list**: a forced list is the mandatory clauses and then the others (`forced_eq`);
* **idempotence**: a forced list has no clauses to lose (`othersOf_append`);
* **confinement**: queries with the same paging, sorts and others become the same query, and what
  a source is asked and answers depends on that query alone (`force_confines`).
-/

namespace Listing

section
variable {mandatory filters : List FilterClause}

/-- The clauses on fields that no mandatory clause is on, in order. -/
def othersOf (mandatory filters : List FilterClause) : List FilterClause :=
  filters.filter fun f => ∀ m ∈ mandatory, m.field ≠ f.field

theorem mem_foldl_distinct {t : Text} {kept ts : List Text} :
    t ∈ ts.foldl (fun kept t => if t ∈ kept then kept else kept ++ [t]) kept ↔
      t ∈ kept ∨ t ∈ ts := by
  induction ts generalizing kept with
  | nil => simp
  | cons u rest ih =>
    rw [List.foldl_cons, ih]
    by_cases known : u ∈ kept
    · rw [if_pos known]
      constructor
      · rintro (h | h)
        · exact .inl h
        · exact .inr (List.mem_cons_of_mem u h)
      · rintro (h | h)
        · exact .inl h
        · rcases List.mem_cons.1 h with rfl | h
          · exact .inl known
          · exact .inr h
    · rw [if_neg known, List.mem_append, List.mem_singleton, List.mem_cons, or_assoc]

theorem mem_fieldsOf {field : Text} :
    field ∈ fieldsOf mandatory ↔ ∃ m ∈ mandatory, m.field = field := by
  rw [fieldsOf, distinctInOrder, mem_foldl_distinct]
  simp

/-- A forced list is the mandatory clauses in order, and then the others. -/
theorem forced_eq (mandatory filters : List FilterClause) :
    Query.forced mandatory filters = mandatory ++ othersOf mandatory filters := by
  have others (f : FilterClause) : (!(fieldsOf mandatory).contains f.field) =
      decide (∀ m ∈ mandatory, m.field ≠ f.field) := by
    rw [List.contains_eq_mem, ← decide_not, decide_eq_decide, mem_fieldsOf]
    exact ⟨fun h m hm same => h ⟨m, hm, same⟩, fun h ⟨m, hm, same⟩ => h m hm same⟩
  simp only [Query.forced, othersOf, others]

/-- A mandatory clause is not among the others. -/
theorem othersOf_mandatory (mandatory : List FilterClause) : othersOf mandatory mandatory = [] := by
  rw [othersOf, List.filter_eq_nil_iff]
  intro m hm
  simpa using ⟨m, hm, rfl⟩

/-- The others of a forced list are the others of the list. -/
theorem othersOf_append (mandatory filters : List FilterClause) :
    othersOf mandatory (mandatory ++ othersOf mandatory filters) = othersOf mandatory filters := by
  rw [othersOf, List.filter_append]
  have own : mandatory.filter (fun f => ∀ m ∈ mandatory, m.field ≠ f.field) = [] :=
    othersOf_mandatory mandatory
  rw [own, List.nil_append]
  exact List.filter_eq_self.2 fun f hf => (List.mem_filter.1 hf).2

theorem othersOf_nil (filters : List FilterClause) : othersOf [] filters = filters := by
  rw [othersOf, List.filter_eq_self]
  simp

end

/-! ## Forced queries -/

section
variable {mandatory : List FilterSpec} {clauses : List FilterClause}

/-- Described clauses come first in a forced query, and the others follow. -/
theorem force_eq (mandatory : List FilterSpec) (q : Query) :
    q.force mandatory = (mandatory.mapM FilterSpec.toClause).map fun clauses =>
      { q with filters := clauses ++ othersOf clauses q.filters } := by
  rw [Query.force]
  cases mandatory.mapM FilterSpec.toClause with
  | error failure => rfl
  | ok clauses =>
    show _ = Except.ok { q with filters := clauses ++ othersOf clauses q.filters }
    cases clauses with
    | nil => rw [othersOf_nil]; rfl
    | cons c rest => rw [← forced_eq]; rfl

theorem force_of_described (described : mandatory.mapM FilterSpec.toClause = .ok clauses)
    (q : Query) :
    q.force mandatory = .ok { q with filters := clauses ++ othersOf clauses q.filters } := by
  rw [force_eq, described]
  rfl

theorem force_eq_ok_iff {q forced : Query} : q.force mandatory = .ok forced ↔
    ∃ clauses, mandatory.mapM FilterSpec.toClause = .ok clauses ∧
      { q with filters := clauses ++ othersOf clauses q.filters } = forced := by
  rw [force_eq, map_eq_ok_iff]

/-- Queries that differ at most in clauses on fields that a mandatory clause is on. -/
structure Query.Alike (mandatory : List FilterSpec) (q r : Query) : Prop where
  page : q.page = r.page
  pageSize : q.pageSize = r.pageSize
  sorts : q.sorts = r.sorts
  others : ∀ clauses, mandatory.mapM FilterSpec.toClause = .ok clauses →
    othersOf clauses q.filters = othersOf clauses r.filters

/-- A query that was forced: nothing else changed, whatever record its filters accept the mandatory
clauses accept, and forcing it again leaves it as it is. -/
structure Query.Forced (mandatory : List FilterSpec) (clauses : List FilterClause)
    (q forced : Query) : Prop where
  eq : forced = { q with filters := clauses ++ othersOf clauses q.filters }
  held : ∀ (attributes : Attributes) (record : Value),
    evaluate attributes forced.filters record = .ok true →
      evaluate attributes clauses record = .ok true
  stable : forced.force mandatory = .ok forced

theorem force_congr {q r : Query} (alike : q.Alike mandatory r) :
    q.force mandatory = r.force mandatory := by
  rw [force_eq, force_eq]
  cases described : mandatory.mapM FilterSpec.toClause with
  | error failure => rfl
  | ok clauses =>
    have others := alike.others clauses described
    simp only [Except.map, alike.page, alike.pageSize, alike.sorts, others]

theorem forced_of_described (described : mandatory.mapM FilterSpec.toClause = .ok clauses)
    (q : Query) : ∃ forced, q.force mandatory = .ok forced ∧ q.Forced mandatory clauses forced := by
  refine ⟨_, force_of_described described q, rfl, ?_, ?_⟩
  · intro attributes record accepted
    rw [evaluate_append, andAlso_eq_true_iff] at accepted
    exact accepted.1
  · rw [force_of_described described]
    dsimp only
    rw [othersOf_append]

end

/-- The filters of the server are beyond the reach of a client: queries that differ only in clauses
on their fields are the same query once it is forced, and a source is asked the same and answers the
same. Described clauses hold of all that the forced query accepts. -/
theorem force_confines (mandatory : List FilterSpec) :
    (∀ q r : Query, q.Alike mandatory r →
      q.force mandatory = r.force mandatory ∧
      ∀ (s : Source) (transform : Option Transform),
        s.execute q mandatory transform = s.execute r mandatory transform) ∧
    (∀ clauses, mandatory.mapM FilterSpec.toClause = .ok clauses →
      ∀ q : Query, ∃ forced,
        q.force mandatory = .ok forced ∧ q.Forced mandatory clauses forced) := by
  constructor
  · intro q r alike
    have same := force_congr alike
    refine ⟨same, fun s transform => ?_⟩
    rw [Source.execute, same]
    rfl
  · intro clauses described q
    exact forced_of_described described q

/-- A filter of the server on the state of an article. -/
def publishedOnly : List FilterSpec :=
  [.parts (some "state") (some (.text "==")) (.text "published") {} {}]

/-- Asking for drafts, before or after other filters, changes nothing. -/
theorem force_confines_published :
    let drafts : FilterClause := .ofOperator "state" .equal (.text "draft")
    let cheap : FilterClause := .ofOperator "price" .lessThan (.int 5)
    let q : Query := { pageSize := 20, filters := [drafts, cheap] }
    let r : Query := { pageSize := 20, filters := [cheap, drafts, drafts] }
    let s : Source := { rows := fun _ => [.int 1] }
    q.force publishedOnly = r.force publishedOnly ∧
      s.execute q publishedOnly none = s.execute r publishedOnly none ∧
      ∃ forced, q.force publishedOnly = .ok forced ∧ q.Forced publishedOnly
        [.ofOperator "state" .equal (.text "published")] forced := by
  intro drafts cheap q r s
  have described : publishedOnly.mapM FilterSpec.toClause =
      .ok [.ofOperator "state" .equal (.text "published")] := rfl
  have alike : q.Alike publishedOnly r := by
    refine ⟨rfl, rfl, rfl, fun clauses given => ?_⟩
    obtain rfl := Except.ok.inj (described.symm.trans given)
    rfl
  obtain ⟨confined, restricted⟩ := force_confines publishedOnly
  obtain ⟨same, executed⟩ := confined q r alike
  exact ⟨same, executed s none, restricted _ described q⟩

end Listing
