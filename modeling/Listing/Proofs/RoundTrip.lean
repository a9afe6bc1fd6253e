import Listing.Proofs.Address
import Listing.Proofs.Rendering

/-!
# Round trips of open endpoints

An endpoint without lists of fields, inside names and default sort reads what its queries are
written as. `follow_queryString_iff` says for which requests the whole way round gives the query
back: those whose filters have no comma in a field. The writer escapes the commas of values
only, while the reader takes escapes out of the whole expression.
-/

namespace Listing

/-- An endpoint that allows every field under its own name. -/
structure Capability.Open (c : Capability) : Prop where
  sortable : c.sortable = none
  filterable : c.filterable = none
  mappings : c.mappings = []
  defaultSort : c.defaultSort = none

namespace Capability.Open
variable {c : Capability}

theorem outside_eq (isOpen : c.Open) : c.outside = c := by
  obtain ⟨-, -, mappings, defaultSort⟩ := isOpen
  cases c
  simp_all [outside]

theorem keepsTexts (isOpen : c.Open) : c.KeepsTexts := by
  intro rules listed
  rw [isOpen.filterable] at listed
  contradiction

end Capability.Open

/-- Following the query string of a query reads its request. -/
theorem follow_queryString {spec : CapabilitySpec} {c : Capability} {p : Preferences}
    (described : Capability.ofSpec spec = .ok c) {q : Query} {defaultPageSize : Value} {text : Text}
    (written : q.queryString defaultPageSize = .ok text) :
    follow ('?' :: text) spec p = (q.asked defaultPageSize).read c p := by
  obtain ⟨params, hparams, rfl⟩ := map_eq_ok_iff.1 written
  obtain ⟨-, rfl⟩ := written_eq_ok_iff.1 hparams
  have chars : ∀ c ∈ Form.write (q.params defaultPageSize), Form.isQueryChar c = true :=
    fun c hc => Form.write_isQueryChar hc
  have address := Address.read_queryOnly chars
  have noForeign : ∀ pair ∈ ([] : List (Text × Text)), pair.1 ∉ parameterNames :=
    fun pair hpair => absurd hpair List.not_mem_nil
  have request := request_write noForeign q defaultPageSize {}
  rw [follow, address, described]
  show ({ query := Form.write (q.params defaultPageSize) } : Address).request.read c p = _
  exact congrArg (·.read c p) request

section
variable {spec : CapabilitySpec} {c : Capability} {p : Preferences} {size greatest : Int}

/-- Clauses that come back over a followed link have no comma in a field. -/
theorem comma_not_mem_of_follow (described : Capability.ofSpec spec = .ok c) (isOpen : c.Open)
    (sized : c.Sized p size greatest) (atLeastOne : 1 ≤ greatest) {q : Query} {text : Text}
    {o : Outcome} (written : q.queryString (.int size) = .ok text)
    (followed : follow ('?' :: text) spec p = .ok o) (same : o.query = q) :
    ∀ f ∈ q.filters, ',' ∉ f.field := by
  rw [follow_queryString described written] at followed
  obtain ⟨page, pageSize, -, read⟩ := Request.query_of_read sized atLeastOne followed
  have filters : (Request.readFilters (some (filtersText q.filters)) c.outside).filters =
      q.filters := by
    have again := congrArg Query.filters (read.symm.trans same)
    rw [isOpen.outside_eq, ← Request.readFilters_asked]
    exact again
  exact comma_not_mem_of_reread isOpen.keepsTexts filters

/-- What was read from a request of an open endpoint comes back from its query string exactly if
no field of a filter has a comma and the page size, if it has to be written, can be. -/
theorem follow_queryString_iff (described : Capability.ofSpec spec = .ok c) (isOpen : c.Open)
    (sized : c.Sized p size greatest) (atLeastOne : 1 ≤ greatest) {r : Request} {o : Outcome}
    (h : r.read c p = .ok o) :
    (∃ text o', o.query.queryString (.int size) = .ok text ∧
        follow ('?' :: text) spec p = .ok o' ∧ o'.query = o.query) ↔
      (∀ f ∈ o.query.filters, ',' ∉ f.field) ∧
        (o.query.pageSize = .whole size ∨ o.query.pageSize.writable = true) := by
  obtain ⟨page, pageSize, paged, read⟩ := Request.query_of_read sized atLeastOne h
  constructor
  · rintro ⟨text, o', written, followed, same⟩
    refine ⟨comma_not_mem_of_follow described isOpen sized atLeastOne written followed same, ?_⟩
    -- The query was written, so its numbers were short enough.
    obtain ⟨params, hparams, -⟩ := map_eq_ok_iff.1 written
    have writable := (written_eq_ok_iff.1 hparams).1
    rw [read] at writable ⊢
    simp only [Query.writable, Request.query, Value.same_number, Number.same_whole,
      Bool.and_eq_true, Bool.or_eq_true, decide_eq_true_eq] at writable
    rcases writable.1.2 with same | short
    · exact .inl (congrArg Number.whole same)
    · exact .inr short
  · rintro ⟨noCommas, sizeWritable⟩
    rw [read] at noCommas sizeWritable ⊢
    have writable : (r.query c page pageSize).writable (.int size) = true := by
      have values : (r.query c page pageSize).filters.all (fun f => f.value.writable) = true := by
        apply List.all_eq_true.2
        intro f hf
        obtain ⟨item, -, accepted⟩ := Request.mem_readFilters_iff.1 hf
        exact Request.writable_of_accepted isOpen.keepsTexts accepted
      have fits : ((Value.number (.whole pageSize)).same (.int size) ||
          (Number.whole pageSize).writable) = true := by
        rcases sizeWritable with same | short
        · simp [Number.whole.inj same]
        · simp [show (Number.whole pageSize).writable = true from short]
      rw [Query.writable, values, Bool.and_true, Bool.and_eq_true]
      exact ⟨paged.page_writable, fits⟩
    have written : (r.query c page pageSize).queryString (.int size) =
        .ok (Form.write ((r.query c page pageSize).params (.int size))) :=
      map_eq_ok_iff.2 ⟨_, written_eq_ok_iff.2 ⟨writable, rfl⟩, rfl⟩
    -- An open endpoint is its own outside, and the size is held to the greatest already.
    rw [← isOpen.outside_eq] at noCommas writable
    have again := Request.read_asked sized isOpen.keepsTexts noCommas paged.page_pos paged.size_pos
      writable
    rw [isOpen.outside_eq, Int.min_eq_left paged.within] at again
    exact ⟨_, _, written, (follow_queryString described written).trans again, rfl⟩

end

/-! ## An open endpoint with the standard preferences -/

theorem described_standard : Capability.ofSpec {} = .ok {} :=
  rfl

theorem open_standard : ({} : Capability).Open :=
  ⟨rfl, rfl, rfl, rfl⟩

theorem sized_standard : ({} : Capability).Sized {} 20 100 :=
  ⟨rfl, rfl⟩

/-- Commas in a value make the way round. -/
theorem follow_queryString_value_comma :
    ∃ o text o', ({ filters := some "brand==a\\,b,stock>0" } : Request).read {} {} = .ok o ∧
      o.query.queryString (.int 20) = .ok text ∧ follow ('?' :: text) {} {} = .ok o' ∧
      o'.query = o.query := by
  have read := Request.read_unpaged sized_standard none (some "brand==a\\,b,stock>0".toList)
  have fields : ∀ f ∈ (Request.readFilters (some "brand==a\\,b,stock>0".toList) {}).filters,
      ',' ∉ f.field := by
    decide
  obtain ⟨text, o', written, followed, same⟩ :=
    (follow_queryString_iff described_standard open_standard sized_standard (by decide) read).2
      ⟨fields, .inl rfl⟩
  exact ⟨_, text, o', read, written, followed, same⟩

/-- A comma in a field does not: what was read does not come back. -/
theorem follow_queryString_field_comma :
    Capability.ofSpec {} = .ok {} ∧ ({} : Capability).Open ∧ ({} : Capability).Sized {} 20 100 ∧
    ∃ o, ({ filters := some "a\\,b==c" } : Request).read {} {} = .ok o ∧
      ¬ ∃ text o', o.query.queryString (.int 20) = .ok text ∧
        follow ('?' :: text) {} {} = .ok o' ∧ o'.query = o.query := by
  have read := Request.read_unpaged sized_standard none (some "a\\,b==c".toList)
  refine ⟨described_standard, open_standard, sized_standard, _, read, ?_⟩
  rintro ⟨text, o', written, followed, same⟩
  have noCommas := comma_not_mem_of_follow described_standard open_standard sized_standard
    (by decide) written followed same
  have fields : ¬ ∀ f ∈ (Request.readFilters (some "a\\,b==c".toList) {}).filters,
      ',' ∉ f.field := by
    decide
  exact fields noCommas

end Listing
