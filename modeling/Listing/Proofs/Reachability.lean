import Listing.Proofs.Conditions
import Listing.Proofs.Forced
import Listing.Proofs.Revision
import Listing.Session

/-!
# Queries that a session can reach

A session starts from the query of a request without parameters and takes steps. Its invariant is
that the query is well formed and that every table of settings keeps page sizes positive.

* **reading**: a request under positive page sizes is read as a well-formed query
  (`wellFormed_of_read`);
* **changing**: a change of one part keeps a query well formed, and so does a patch
  (`wellFormed_of_merge`), and forcing described filters (`wellFormed_of_force`);
* **a step**: whatever a step answers, the invariant holds after it (`sound_step`);
* **a run**: so it holds of every reachable state (`sound_after`).

A well-formed query has an offset that is not negative. On a source that answers every call it runs
to its end on the slice of its page, exactly if no filter is misnamed and the source does not count
more rows than a quotient can be rounded to (`reachable_wellFormed`).
-/

namespace Listing

/-! ## Positive page sizes -/

/-- A number that counts as an integer of at least one. -/
def Number.AtLeastOne (n : Number) : Prop :=
  ∃ i, n.toInt? = some i ∧ 1 ≤ i

/-- A value that is an integer of at least one. -/
def Value.IsPageSize (v : Value) : Prop :=
  ∃ n : Number, v = .number n ∧ n.AtLeastOne

/-- The page sizes that a table of settings sets are positive. -/
def Members.KeepsPositive (table : Members) : Prop :=
  ∀ key, key = "DEFAULT_PAGE_SIZE".toList ∨ key = "MAX_PAGE_SIZE".toList →
    ∀ v, table.get? key = some v → v.IsPageSize

/-- The tables in force and in the snapshot keep page sizes positive. -/
def Settings.Positive (s : Settings) : Prop :=
  ∀ table, s.inForce = some table ∨ s.snapshot = some table → table.KeepsPositive

structure Preferences.Positive (p : Preferences) : Prop where
  size : p.defaultPageSize.IsPageSize
  greatest : p.maxPageSize.IsPageSize

/-- The page sizes that a capability sets are positive. -/
structure Capability.Positive (c : Capability) : Prop where
  size : ∀ v, c.defaultPageSize = some v → v.IsPageSize
  greatest : ∀ v, c.maxPageSize = some v → v.IsPageSize

theorem isPageSize_int {i : Int} (h : 1 ≤ i) : (Value.int i).IsPageSize :=
  ⟨.whole i, rfl, i, rfl, h⟩

theorem Members.KeepsPositive.sizeIn {table : Members} (keeps : table.KeepsPositive) {key : Text}
    (named : key = "DEFAULT_PAGE_SIZE".toList ∨ key = "MAX_PAGE_SIZE".toList) {standard : Int}
    (h : 1 ≤ standard) : (Preferences.sizeIn table key standard).IsPageSize := by
  unfold Preferences.sizeIn
  cases set : table.get? key with
  | none => exact isPageSize_int h
  | some v => exact keeps key named v set

section
variable {s : Settings} {c : Capability} {p : Preferences}

theorem Settings.Positive.table (positive : s.Positive) : s.table.KeepsPositive := by
  unfold Settings.table
  cases snapshot : s.snapshot with
  | some table => exact positive table (.inr snapshot)
  | none =>
    cases inForce : s.inForce with
    | some table => exact positive table (.inl inForce)
    | none => exact fun key _ v set => by cases set

theorem Settings.Positive.preferences (positive : s.Positive) : s.preferences.Positive where
  size := positive.table.sizeIn (.inl rfl) (by decide)
  greatest := positive.table.sizeIn (.inr rfl) (by decide)

theorem Settings.Positive.set (positive : s.Positive) {table : Members}
    (keeps : table.KeepsPositive) : (s.set table).Positive := by
  rintro other (inForce | snapshot)
  · obtain rfl := Option.some.inj inForce
    exact keeps
  · exact positive other (.inr snapshot)

theorem Settings.Positive.reload (positive : s.Positive) : s.reload.Positive := by
  rintro other (inForce | snapshot)
  · exact positive other (.inl inForce)
  · cases snapshot

theorem Settings.Positive.afterRead (positive : s.Positive) : s.afterRead.Positive := by
  rintro other (inForce | snapshot)
  · exact positive other (.inl inForce)
  · obtain rfl := Option.some.inj snapshot
    exact positive.table

theorem Capability.Positive.pageSize (positive : c.Positive) (preferred : p.Positive) :
    (c.pageSize p).IsPageSize := by
  unfold Capability.pageSize
  cases set : c.defaultPageSize with
  | none => exact preferred.size
  | some v => exact positive.size v set

theorem Capability.Positive.greatestPageSize (positive : c.Positive) (preferred : p.Positive) :
    (c.greatestPageSize p).IsPageSize := by
  unfold Capability.greatestPageSize
  cases set : c.maxPageSize with
  | none => exact preferred.greatest
  | some v => exact positive.greatest v set

theorem exists_smallerSize {a b : Value} (ha : a.IsPageSize) (hb : b.IsPageSize) :
    ∃ n, Capability.smallerSize a b = .ok n ∧ n.AtLeastOne := by
  obtain ⟨m, rfl, hm⟩ := ha
  obtain ⟨n, rfl, hn⟩ := hb
  refine ⟨_, rfl, ?_⟩
  split
  · exact hn
  · exact hm

theorem exists_startingPageSize (positive : c.Positive) (preferred : p.Positive) :
    ∃ n, c.startingPageSize p = .ok n ∧ n.AtLeastOne :=
  exists_smallerSize (positive.pageSize preferred) (positive.greatestPageSize preferred)

/-! ## Well-formed queries -/

/-- A query with integers of at least one for its page and page size and with filters of the
grammar. -/
structure Query.WellFormed (q : Query) : Prop where
  page : q.page.AtLeastOne
  pageSize : q.pageSize.AtLeastOne
  tokens : ∀ f ∈ q.filters, ∃ op : Operator, f.token = op.token

/-! ### Reading -/

theorem page_of_readPage {r : Request} {page : Int} {faults : List Fault}
    (h : r.readPage = .ok (page, faults)) : 1 ≤ page := by
  obtain ⟨⟨asked, _⟩, read, same⟩ := map_eq_ok_iff.1 h
  obtain ⟨rfl, -⟩ := Prod.mk.inj same
  cases asked with
  | none => exact Int.le_refl 1
  | some n => exact (Request.positive_of_readPositive read).1

theorem pageSize_of_readPageSize (positive : c.Positive) (preferred : p.Positive) {r : Request}
    {size : Number} {faults : List Fault} (h : r.readPageSize c p = .ok (size, faults)) :
    size.AtLeastOne := by
  obtain ⟨start, starting, h⟩ := bind_eq_ok_iff.1 h
  obtain ⟨⟨asked, _⟩, read, h⟩ := bind_eq_ok_iff.1 h
  cases asked with
  | none =>
    cases h
    exact of_exists_ok (exists_startingPageSize positive preferred) starting
  | some n =>
    have asked := isPageSize_int (Request.positive_of_readPositive read).1
    obtain ⟨held, holding, same⟩ := bind_eq_ok_iff.1 h
    cases same
    exact of_exists_ok (exists_smallerSize asked (positive.greatestPageSize preferred)) holding

theorem token_of_mem_readFilters {raw : Option Text} {f : FilterClause}
    (hf : f ∈ (Request.readFilters raw c).filters) : ∃ op : Operator, f.token = op.token := by
  obtain ⟨item, -, accepted⟩ := Request.mem_readFilters_iff.1 hf
  cases Request.decides_iff.2 accepted with
  | @clause e => exact ⟨e.op, rfl⟩

/-- A request is read as a well-formed query, whatever it asks for. -/
theorem wellFormed_of_read (positive : c.Positive) (preferred : p.Positive) {r : Request}
    {o : Outcome} (h : r.read c p = .ok o) : o.query.WellFormed := by
  cases paging : r.readPaging c p with
  | error failure =>
    cases (Request.read_of_readPaging_error paging).symm.trans h
  | ok paged =>
    obtain ⟨page, size, faults⟩ := paged
    obtain rfl := Except.ok.inj ((Request.read_of_readPaging paging).symm.trans h)
    obtain ⟨⟨n, _⟩, pageRead, paging⟩ := bind_eq_ok_iff.1 paging
    obtain ⟨⟨m, _⟩, sizeRead, paging⟩ := bind_eq_ok_iff.1 paging
    cases paging
    exact ⟨⟨page, rfl, page_of_readPage pageRead⟩,
      pageSize_of_readPageSize positive preferred sizeRead,
      fun f hf => token_of_mem_readFilters hf⟩

/-- Work under a described capability is work under what the description says. -/
theorem of_described {spec : CapabilitySpec} (described : Capability.ofSpec spec = .ok c)
    {α : Type} {f : Capability → Except Failure α} {a : α}
    (h : Capability.ofSpec spec >>= f = .ok a) : f c = .ok a := by
  rw [described] at h
  exact h

theorem wellFormed_of_follow {spec : CapabilitySpec} (described : Capability.ofSpec spec = .ok c)
    (positive : c.Positive) (preferred : p.Positive) {link : Text} {o : Outcome}
    (h : follow link spec p = .ok o) : o.query.WellFormed := by
  obtain ⟨a, -, h⟩ := bind_eq_ok_iff.1 h
  exact wellFormed_of_read positive preferred (of_described described h)

theorem exists_start (positive : c.Positive) (preferred : p.Positive) :
    ∃ q, Query.start c p = .ok q ∧ q.WellFormed := by
  obtain ⟨n, starting, atLeastOne⟩ := exists_startingPageSize positive preferred
  refine ⟨_, by rw [Query.start, starting]; rfl, ⟨1, rfl, Int.le_refl 1⟩, atLeastOne, ?_⟩
  simp

theorem wellFormed_of_bare (preferred : p.Positive) {q : Query} (h : Query.bare p = .ok q) :
    q.WellFormed := by
  obtain ⟨n, size, rfl⟩ := map_eq_ok_iff.1 h
  obtain ⟨m, number, atLeastOne⟩ := preferred.size
  rw [Preferences.pageSize, number] at size
  obtain rfl := Except.ok.inj size
  exact ⟨⟨1, rfl, Int.le_refl 1⟩, atLeastOne, by simp⟩

/-! ### Changing -/

/-- A description of a filter that cannot give an operator beyond the grammar. Only a clause that is
its own description is not looked up. -/
def FilterSpec.Checked : FilterSpec → Prop
  | clause f => ∃ op : Operator, f.token = op.token
  | parts .. => True

theorem token_of_toClause {spec : FilterSpec} (checked : spec.Checked) {f : FilterClause}
    (h : spec.toClause = .ok f) : ∃ op : Operator, f.token = op.token := by
  cases spec with
  | clause g =>
    obtain rfl := Except.ok.inj h
    exact checked
  | parts field token value negated ignoresCase =>
    obtain ⟨member, -, h⟩ := bind_eq_ok_iff.1 h
    obtain ⟨op, -, h⟩ := bind_eq_ok_iff.1 h
    obtain ⟨name, -, h⟩ := bind_eq_ok_iff.1 h
    cases h
    exact ⟨op, rfl⟩

theorem tokens_of_mapM {specs : List FilterSpec} (checked : ∀ spec ∈ specs, spec.Checked)
    {clauses : List FilterClause} (h : specs.mapM FilterSpec.toClause = .ok clauses) :
    ∀ f ∈ clauses, ∃ op : Operator, f.token = op.token := by
  intro f hf
  obtain ⟨spec, hspec, described⟩ := exists_of_mem_mapM h hf
  exact token_of_toClause (checked spec hspec) described

/-- A change to integers for the paging or to described filters that are checked; one that is of no
part of a query or of the wrong kind fails anyway. -/
def Change.Admissible : Change → Prop
  | page (some n) | pageSize _ (some n) => ∃ i, n.toInt? = some i
  | filters (some specs) => ∀ spec ∈ specs, spec.Checked
  | _ => True

theorem atLeastOne_of_positive {key : Text} {n m : Number} (whole : ∃ i, n.toInt? = some i)
    (h : Change.positive key n = .ok m) : m.AtLeastOne := by
  obtain ⟨i, counts⟩ := whole
  unfold Change.positive at h
  split at h
  · cases h
  · next notLess =>
    obtain rfl := Except.ok.inj h
    have less : n.less 1 = decide (i < 1) := Number.less_of_toInt counts (Number.toInt?_whole 1)
    rw [less, decide_eq_true_eq] at notLess
    exact ⟨i, counts, Int.not_lt.1 notLess⟩

theorem wellFormed_of_apply {change : Change} (admissible : change.Admissible) {q r : Query}
    (wellFormed : q.WellFormed) (h : change.apply q = .ok r) : r.WellFormed := by
  cases change with
  | page number =>
    cases number with
    | none => cases h; exact wellFormed
    | some n =>
      obtain ⟨m, positive, rfl⟩ := map_eq_ok_iff.1 h
      exact { wellFormed with page := atLeastOne_of_positive admissible positive }
  | pageSize underscored number =>
    cases number with
    | none => cases h; exact wellFormed
    | some n =>
      obtain ⟨m, positive, rfl⟩ := map_eq_ok_iff.1 h
      exact { wellFormed with pageSize := atLeastOne_of_positive admissible positive }
  | sorts specs =>
    cases specs with
    | none => cases h; exact wellFormed
    | some specs =>
      obtain ⟨sorts, -, rfl⟩ := map_eq_ok_iff.1 h
      exact { wellFormed with }
  | filters specs =>
    cases specs with
    | none => cases h; exact wellFormed
    | some specs =>
      obtain ⟨filters, described, rfl⟩ := map_eq_ok_iff.1 h
      exact { wellFormed with tokens := tokens_of_mapM admissible described }
  | misfit key kind => cases h
  | unknown key => cases h

theorem wellFormed_of_merge {patch : Patch} (admissible : ∀ change ∈ patch, change.Admissible)
    {q r : Query} (wellFormed : q.WellFormed) (h : q.merge patch = .ok r) : r.WellFormed := by
  refine foldlM_preserves (fun change hchange q r wellFormed applied => ?_) h wellFormed
  exact wellFormed_of_apply (admissible change hchange) wellFormed applied

theorem wellFormed_of_force {mandatory : List FilterSpec}
    (checked : ∀ spec ∈ mandatory, spec.Checked) {q r : Query} (wellFormed : q.WellFormed)
    (h : q.force mandatory = .ok r) : r.WellFormed := by
  obtain ⟨clauses, described, rfl⟩ := force_eq_ok_iff.1 h
  refine { wellFormed with tokens := fun f hf => ?_ }
  rcases List.mem_append.1 hf with hf | hf
  · exact tokens_of_mapM checked described f hf
  · exact wellFormed.tokens f (List.mem_filter.1 hf).1

end

/-! ## Sessions -/

/-- A step whose settings keep page sizes positive, whose changes are to integers, and whose
described filters are checked; a request may ask for anything. -/
def SessionStep.Admissible : SessionStep → Prop
  | merge patch => ∀ change ∈ patch, change.Admissible
  | force mandatory => ∀ spec ∈ mandatory, spec.Checked
  | configure table _ => table.KeepsPositive
  | _ => True

/-- The session after steps. -/
def Session.after (spec : CapabilitySpec) (s : Session) (steps : List SessionStep) : Session :=
  steps.foldl (fun s step => (s.step spec step).2) s

/-- The invariant of a session. -/
structure Session.Sound (s : Session) : Prop where
  query : s.query.WellFormed
  settings : s.settings.Positive

section
variable {spec : CapabilitySpec} {c : Capability} {p : Preferences}

theorem positive_settingsAfter {s : Settings} (positive : s.Positive) {step : SessionStep}
    (admissible : step.Admissible) : (Session.settingsAfter spec s step).Positive := by
  have read : (if Session.readsSettings spec step then s.afterRead else s).Positive := by
    split
    · exact positive.afterRead
    · exact positive
  cases step with
  | configure table reload =>
    show (if reload then (s.set table).reload else s.set table).Positive
    split
    · exact (positive.set admissible).reload
    · exact positive.set admissible
  | read | readString | merge | force | start | bare | write | reread | condition | ordering
  | fields | accepts | execute => exact read

/-- The query after an answer is well formed: it was read, it was changed, or it is the one
before. -/
theorem wellFormed_of_answer (described : Capability.ofSpec spec = .ok c) (positive : c.Positive)
    (preferred : p.Positive) {step : SessionStep} (admissible : step.Admissible) {q r : Query}
    (wellFormed : q.WellFormed) {a : SessionAnswer}
    (h : Session.answer spec p q step = .ok (a, r)) : r.WellFormed := by
  cases step with
  | read request =>
    obtain ⟨o, read, h⟩ := bind_eq_ok_iff.1 (of_described described h)
    cases h
    exact wellFormed_of_read positive preferred read
  | readString queryString fieldLimit =>
    obtain ⟨request, -, h⟩ := bind_eq_ok_iff.1 h
    obtain ⟨o, read, h⟩ := bind_eq_ok_iff.1 (of_described described h)
    cases h
    exact wellFormed_of_read positive preferred read
  | merge patch =>
    obtain ⟨next, merged, same⟩ := map_eq_ok_iff.1 h
    cases same
    exact wellFormed_of_merge admissible wellFormed merged
  | force mandatory =>
    obtain ⟨next, forced, same⟩ := map_eq_ok_iff.1 h
    cases same
    exact wellFormed_of_force admissible wellFormed forced
  | start =>
    obtain ⟨next, started, h⟩ := bind_eq_ok_iff.1 (of_described described h)
    cases h
    exact of_exists_ok (exists_start positive preferred) started
  | bare =>
    obtain ⟨next, bare, same⟩ := map_eq_ok_iff.1 h
    cases same
    exact wellFormed_of_bare preferred bare
  | reread =>
    obtain ⟨written, -, h⟩ := bind_eq_ok_iff.1 h
    obtain ⟨o, followed, h⟩ := bind_eq_ok_iff.1 h
    cases h
    exact wellFormed_of_follow described positive preferred followed
  | write =>
    obtain ⟨t, -, same⟩ := map_eq_ok_iff.1 h
    cases same
    exact wellFormed
  | condition =>
    obtain ⟨condition, -, same⟩ := map_eq_ok_iff.1 h
    cases same
    exact wellFormed
  | execute source =>
    obtain ⟨page, -, same⟩ := map_eq_ok_iff.1 h
    cases same
    exact wellFormed
  | accepts attributes records =>
    obtain ⟨verdicts, -, same⟩ := map_eq_ok_iff.1 h
    cases same
    exact wellFormed
  | configure | ordering | fields =>
    cases h
    exact wellFormed

/-- One step keeps the invariant, whether it answers or fails. -/
theorem sound_step (described : Capability.ofSpec spec = .ok c) (positive : c.Positive)
    {s : Session} (sound : s.Sound) {step : SessionStep} (admissible : step.Admissible) :
    (s.step spec step).2.Sound := by
  have settings : (Session.settingsAfter spec s.settings step).Positive :=
    positive_settingsAfter sound.settings admissible
  unfold Session.step
  cases answered : Session.answer spec s.settings.preferences s.query step with
  | error failure => exact ⟨sound.query, settings⟩
  | ok given =>
    obtain ⟨a, next⟩ := given
    exact ⟨wellFormed_of_answer described positive sound.settings.preferences admissible sound.query
      answered, settings⟩

/-- So does a run of steps. -/
theorem sound_after (described : Capability.ofSpec spec = .ok c) (positive : c.Positive)
    {steps : List SessionStep} (admissible : ∀ step ∈ steps, step.Admissible) {s : Session}
    (sound : s.Sound) : (s.after spec steps).Sound := by
  induction steps generalizing s with
  | nil => exact sound
  | cons step rest ih =>
    exact ih (fun next hnext => admissible next (List.mem_cons_of_mem step hnext))
      (sound_step described positive sound (admissible step List.mem_cons_self))

/-- A session begins with the query of a request without parameters, and soundly. -/
theorem exists_begin (described : Capability.ofSpec spec = .ok c) (positive : c.Positive)
    {settings : Settings} (settled : settings.Positive) :
    ∃ first, Session.begin spec settings none = .ok first ∧ first.Sound := by
  obtain ⟨q, started, wellFormed⟩ := exists_start positive settled.preferences
  refine ⟨⟨q, if c.needsPreferences then settings.afterRead else settings⟩, ?_, wellFormed, ?_⟩
  · unfold Session.begin
    dsimp only
    rw [described]
    show (Query.start c settings.preferences >>= _) = _
    rw [started]
    rfl
  · dsimp only
    split
    · exact settled.afterRead
    · exact settled

end

/-! ## Execution -/

/-- What becomes of a query on a source: nothing is divided by zero, no slice is asked for but that
of the page, and the work is done to its end exactly if no filter is misnamed and the source does
not count more rows than can be counted in pages. -/
structure Query.Executes (q : Query) (s : Source) (first size : Int) : Prop where
  undivided : ∀ failure, (s.execute q [] none).result = .error failure → failure.isDivision = false
  slices : ∀ start stop, .slice start stop ∈ (s.execute q [] none).calls →
    start = .whole first ∧ stop = .whole (first + size)
  done_iff : (∃ condition page, s.execute q [] none =
      ⟨s.callsFor condition q.sorts (.whole first) (.whole (first + size)), .ok page⟩) ↔
    (∀ f ∈ q.filters, ¬ f.Misnamed) ∧ ∀ condition, conditionOf q.filters = .ok condition →
      (s.reported (.of condition q.sorts)).natAbs < roundingLimit * size.natAbs

section
variable {q : Query}

theorem Query.WellFormed.exists_offset (wellFormed : q.WellFormed) :
    ∃ first size, q.offset = .ok (.whole first) ∧ 0 ≤ first ∧ q.pageSize.toInt? = some size ∧
      1 ≤ size ∧ ∃ page, q.page.toInt? = some page ∧ first = (page - 1) * size := by
  obtain ⟨page, paged, pagePositive⟩ := wellFormed.page
  obtain ⟨size, sized, sizePositive⟩ := wellFormed.pageSize
  refine ⟨_, size, Query.offset_of_toInt paged sized, ?_, sized, sizePositive, page, paged, rfl⟩
  exact Int.mul_nonneg (by omega) (by omega)

theorem Query.WellFormed.exists_conditionOf_iff (wellFormed : q.WellFormed) :
    (∃ condition, conditionOf q.filters = .ok condition) ↔ ∀ f ∈ q.filters, ¬ f.Misnamed := by
  rw [Listing.exists_conditionOf_iff]
  constructor
  · intro made f hf
    obtain ⟨op, token⟩ := wellFormed.tokens f hf
    exact (exists_condition_iff token).1 (made f hf)
  · intro named f hf
    obtain ⟨op, token⟩ := wellFormed.tokens f hf
    exact (exists_condition_iff token).2 (named f hf)

/-- A failure before the slice. -/
theorem executes_of_failure {s : Source} {first size : Int} {calls : List Call} {failure : Failure}
    (executed : s.execute q [] none = ⟨calls, .error failure⟩)
    (undivided : failure.isDivision = false)
    (unsliced : ∀ start stop, Call.slice start stop ∉ calls)
    (stops : ¬ ((∀ f ∈ q.filters, ¬ f.Misnamed) ∧
      ∀ condition, conditionOf q.filters = .ok condition →
        (s.reported (.of condition q.sorts)).natAbs < roundingLimit * size.natAbs)) :
    q.Executes s first size where
  undivided := by
    intro other fails
    rw [executed] at fails
    obtain rfl := Except.error.inj fails
    exact undivided
  slices := by
    intro start stop asked
    rw [executed] at asked
    exact absurd asked (unsliced start stop)
  done_iff := by
    refine iff_of_false ?_ stops
    rintro ⟨condition, page, done⟩
    cases executed.symm.trans done

theorem Query.WellFormed.executes (wellFormed : q.WellFormed) {s : Source} (steady : s.Steady)
    {page size : Int} (paged : q.page.toInt? = some page)
    (sized : q.pageSize.toInt? = some size) (positive : 0 < size) :
    q.Executes s ((page - 1) * size) size := by
  have unforced : s.execute q [] none = s.fetch q none := Source.execute_of_force rfl
  cases made : conditionOf q.filters with
  | error failure =>
    have executed : s.execute q [] none = ⟨[s.opening], .error failure⟩ :=
      unforced.trans (Source.fetch_unconditioned steady made)
    refine executes_of_failure executed (isDivision_of_conditionOf made) ?_ ?_
    · intro start stop asked
      exact Source.opening_ne_slice s start stop (List.mem_singleton.1 asked)
    · rintro ⟨named, -⟩
      obtain ⟨condition, made'⟩ := wellFormed.exists_conditionOf_iff.2 named
      cases made.symm.trans made'
  | ok condition =>
    have named := wellFormed.exists_conditionOf_iff.1 ⟨condition, made⟩
    have counting := pageCount_of_toInt sized (s.reported (.of condition q.sorts))
    rcases pageCount_cases (s.reported (.of condition q.sorts)) positive with
      ⟨few, k, counted⟩ | ⟨many, fails⟩
    · have executed := unforced.trans
        (Source.fetch_of_steady steady paged sized made (counting.trans counted))
      refine ⟨fun failure fails => ?_, fun start stop asked => ?_,
        iff_of_true ⟨condition, _, executed⟩ ⟨named, fun other made' => ?_⟩⟩
      · rw [executed] at fails
        cases fails
      · rw [executed] at asked
        exact Source.slice_mem_callsFor_iff.1 asked
      · rw [← Except.ok.inj (made.symm.trans made')]
        exact few
    · have executed : s.execute q [] none =
          ⟨s.opening :: .filter condition :: (Source.orderCalls q.sorts ++ [.count]),
            .error .quotientTooLarge⟩ :=
        unforced.trans (Source.fetch_uncounted steady made (counting.trans fails))
      refine executes_of_failure executed rfl ?_ fun h => Nat.not_lt.2 many (h.2 condition made)
      intro start stop
      simp [Source.opening_ne_slice, Source.slice_not_mem_orderCalls]

end

/-! ## The law -/

/-- Every query that a session reaches is well formed: its offset is not negative, its filters make
a condition exactly if none of them is misnamed, and a source that answers every call is asked for
the slice of the page and for no other. -/
theorem reachable_wellFormed {spec : CapabilitySpec} {c : Capability}
    (described : Capability.ofSpec spec = .ok c) (positive : c.Positive) {settings : Settings}
    (settled : settings.Positive) :
    ∃ start, Session.begin spec settings none = .ok start ∧
      ∀ steps, (∀ step ∈ steps, step.Admissible) →
        ∃ q first size, (start.after spec steps).query = q ∧ q.WellFormed ∧
          q.offset = .ok (.whole first) ∧ 0 ≤ first ∧ q.pageSize.toInt? = some size ∧ 1 ≤ size ∧
          ((∃ condition, conditionOf q.filters = .ok condition) ↔
            ∀ f ∈ q.filters, ¬ f.Misnamed) ∧
          ∀ s : Source, s.Steady → q.Executes s first size := by
  obtain ⟨start, begun, sound⟩ := exists_begin described positive settled
  refine ⟨start, begun, fun steps admissible => ?_⟩
  have wellFormed := (sound_after described positive admissible sound).query
  obtain ⟨first, size, offset, notNegative, sized, atLeastOne, page, paged, rfl⟩ :=
    wellFormed.exists_offset
  exact ⟨_, _, size, rfl, wellFormed, offset, notNegative, sized, atLeastOne,
    wellFormed.exists_conditionOf_iff,
    fun s steady => wellFormed.executes steady paged sized (by omega)⟩

/-- Steps of every kind that changes the query or the settings. -/
def shopSteps : List SessionStep :=
  [.readString "page=3&pageSize=80&filters=brand==a,size>4".toList,
   .merge [.page (some 7),
     .filters (some [.parts (some "price") (some (.text "<")) (.int 9) {} {}])],
   .force [.parts (some "state") (some (.text "==")) (.text "published") {} {}],
   .configure [("DEFAULT_PAGE_SIZE", .int 5)] true, .merge [.pageSize false (some 0)], .reread]

/-- A session of the shop. -/
theorem reachable_wellFormed_shop : ∃ start, Session.begin shopSpec {} none = .ok start ∧
    ∃ q first size, (start.after shopSpec shopSteps).query = q ∧ q.WellFormed ∧
      q.offset = .ok (.whole first) ∧ 0 ≤ first ∧ q.pageSize.toInt? = some size ∧ 1 ≤ size := by
  have positive : shop.Positive := by
    constructor
    · intro v set
      cases set
    · intro v set
      obtain rfl := Option.some.inj set
      exact isPageSize_int (by decide)
  have settled : ({} : Settings).Positive := by
    rintro table (inForce | snapshot)
    · cases inForce
    · cases snapshot
  have admissible : ∀ step ∈ shopSteps, step.Admissible := by
    have keeps : Members.KeepsPositive [("DEFAULT_PAGE_SIZE", .int 5)] := by
      intro key _ v set
      rw [Members.get?_cons] at set
      split at set
      · obtain rfl := Option.some.inj set
        exact isPageSize_int (by decide)
      · cases set
    intro step hstep
    simp only [shopSteps, List.mem_cons, List.not_mem_nil, or_false] at hstep
    rcases hstep with rfl | rfl | rfl | rfl | rfl | rfl
    · trivial
    · exact List.forall_mem_cons.2 ⟨⟨7, rfl⟩,
        List.forall_mem_singleton.2 (List.forall_mem_singleton.2 trivial)⟩
    · exact List.forall_mem_singleton.2 trivial
    · exact keeps
    · exact List.forall_mem_singleton.2 ⟨0, rfl⟩
    · trivial
  obtain ⟨start, begun, reaches⟩ := reachable_wellFormed described_shop positive settled
  obtain ⟨q, first, size, same, wellFormed, offset, notNegative, sized, atLeastOne, -⟩ :=
    reaches shopSteps admissible
  exact ⟨start, begun, q, first, size, same, wellFormed, offset, notNegative, sized, atLeastOne⟩

/-- A request can ask for a field that no condition can be made of. -/
theorem reachable_self_fails : ∃ start, Session.begin {} {} none = .ok start ∧
    (SessionStep.read { filters := some "self==x" }).Admissible ∧
    ¬ ∃ condition, conditionOf
      (start.after {} [.read { filters := some "self==x" }]).query.filters = .ok condition := by
  have asked : (Session.begin {} {} none).map (fun start =>
      (start.after {} [.read { filters := some "self==x" }]).query.filters) =
        .ok [.ofOperator "self" .equal (.text "x")] := rfl
  have fails : conditionOf [.ofOperator "self" .equal (.text "x")] =
      .error (.nameTaken "Q.__init__()" "self") := rfl
  obtain ⟨start, begun, filters⟩ := map_eq_ok_iff.1 asked
  refine ⟨start, begun, trivial, ?_⟩
  rintro ⟨condition, made⟩
  rw [filters, fails] at made
  cases made

end Listing
