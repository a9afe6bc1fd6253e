import Listing.Proofs.Address
import Listing.Proofs.Rendering

/-!
# Revisions

A revision that succeeds replaces the parameters of the request and leaves every other parameter
and every other part of the link alone (`reviseLink_keeps_foreign`).

A link that is revised again and again keeps asking for the sorts and filters of the link at the
start, and its page and page size are the last ones written. The invariant of a run is
`Asks`: read in the words of the request, a link gives the sorts and filters of the first one.
One revision restores it (`Revised.asks`), and `follow_reviseAll` says what following
the last link gives under the inside names and the default sort.
-/

namespace Listing

/-! ## Patches of pages and page sizes -/

namespace Change

/-- A change of the page or the page size to a positive integer. -/
def SetsPaging : Change → Prop
  | page (some (.whole n)) => 1 ≤ n
  | pageSize _ (some (.whole n)) => 1 ≤ n
  | _ => False

/-- The page that a change writes. -/
def page? : Change → Option Int
  | page (some (.whole n)) => some n
  | _ => none

/-- The page size that a change writes. -/
def pageSize? : Change → Option Int
  | pageSize _ (some (.whole n)) => some n
  | _ => none

/-- The last number that changes write to a part. -/
def lastOf (part : Change → Option Int) (changes : List Change) : Option Int :=
  (changes.filterMap part).getLast?

theorem lastOf_append (part : Change → Option Int) (before after : List Change) :
    lastOf part (before ++ after) = (lastOf part after).or (lastOf part before) := by
  rw [lastOf, List.filterMap_append, List.getLast?_append]
  rfl

theorem getD_lastOf_cons (part : Change → Option Int) (c : Change) (rest : List Change)
    (start : Int) : (lastOf part (c :: rest)).getD start =
      (lastOf part rest).getD ((part c).getD start) := by
  rw [← List.singleton_append, lastOf_append]
  cases lastOf part rest with
  | none => cases written : part c <;> simp [lastOf, written]
  | some n => rfl

/-- What a change of paging does to a query with integers for its paging. -/
theorem apply_of_setsPaging {c : Change} (sets : c.SetsPaging) (page pageSize : Int)
    (sorts : List SortClause) (filters : List FilterClause) :
    c.apply ⟨.whole page, .whole pageSize, sorts, filters⟩ =
      .ok ⟨.whole (c.page?.getD page), .whole (c.pageSize?.getD pageSize), sorts, filters⟩ := by
  have kept (key : Text) {n : Int} (atLeastOne : 1 ≤ n) :
      Change.positive key (.whole n) = .ok (.whole n) := by
    have below : (Number.whole n).less 1 = false :=
      (Number.less_whole n 1).trans (decide_eq_false (Int.not_lt.2 atLeastOne))
    rw [positive, below]
    rfl
  unfold SetsPaging at sets
  split at sets
  · next n => rw [apply, kept _ sets]; rfl
  · next underscored n => rw [apply, kept _ sets]; rfl
  · contradiction

end Change

theorem Query.merge_of_setsPaging {patch : Patch} (sets : ∀ c ∈ patch, c.SetsPaging)
    (page pageSize : Int) (sorts : List SortClause) (filters : List FilterClause) :
    (Query.mk (.whole page) (.whole pageSize) sorts filters).merge patch =
      .ok ⟨.whole ((Change.lastOf Change.page? patch).getD page),
        .whole ((Change.lastOf Change.pageSize? patch).getD pageSize), sorts, filters⟩ := by
  unfold Query.merge
  induction patch generalizing page pageSize with
  | nil => rfl
  | cons c rest ih =>
    have first := Change.apply_of_setsPaging (sets c List.mem_cons_self) page pageSize sorts filters
    have later := ih (fun d hd => sets d (List.mem_cons_of_mem c hd)) (c.page?.getD page)
      (c.pageSize?.getD pageSize)
    rw [List.foldlM_cons, first, Change.getD_lastOf_cons, Change.getD_lastOf_cons]
    exact later

/-- A patch of positive integers leaves a positive integer. -/
theorem Change.one_le_lastOf {changes : List Change} (sets : ∀ c ∈ changes, c.SetsPaging)
    {part : Change → Option Int} (hpart : part = page? ∨ part = pageSize?) {n : Int}
    (last : lastOf part changes = some n) : 1 ≤ n := by
  obtain ⟨c, hc, written⟩ := List.mem_filterMap.1 (List.mem_of_getLast? last)
  have positive := sets c hc
  rcases hpart with rfl | rfl
  · unfold page? at written
    split at written
    · rw [← Option.some.inj written]
      exact positive
    · contradiction
  · unfold pageSize? at written
    split at written
    · rw [← Option.some.inj written]
      exact positive
    · contradiction

/-! ## One revision -/

section
variable {spec : CapabilitySpec} {c : Capability} {p : Preferences} {size greatest : Int}

/-- A link of a run that started at an address: it has the parts of that address, and in the words
of the request it asks for the same sorts and filters, with a page and a page size. -/
def Asks (c : Capability) (p : Preferences) (size greatest : Int) (a : Address) (link : Text)
    (page pageSize : Int) : Prop :=
  ∃ query o, Address.read link = .ok { a with query } ∧
    ({ a with query } : Address).request.read c.outside p = .ok o ∧
    o.query = a.request.query c.outside page pageSize ∧
    Request.Paged size greatest page pageSize

/-- A link after a revision: its request is the one that the changed query makes. -/
structure Revised (c : Capability) (size : Int) (a : Address) (link : Text) (page pageSize : Int) :
    Prop where
  read : ∃ query, Address.read link = .ok { a with query } ∧
    ({ a with query } : Address).request =
      (a.request.query c.outside page pageSize).asked (.int size)
  writable : (a.request.query c.outside page pageSize).writable (.int size) = true
  page_pos : 1 ≤ page
  size_pos : pageSize = size ∨ 1 ≤ pageSize

theorem foreignPairs_names (query : Text) :
    ∀ pair ∈ foreignPairs query, pair.1 ∉ parameterNames := by
  intro pair hpair
  have kept := (List.mem_filter.1 hpair).2
  simpa using kept

/-- What a revision does when it succeeds. -/
theorem Address.revise_eq_ok_iff {a b : Address} {patch : Patch} : a.revise patch c p = .ok b ↔
    ∃ o changed params, a.request.read c.outside p = .ok o ∧ o.query.merge patch = .ok changed ∧
      changed.written (c.pageSize p) = .ok params ∧ a.asking params = b := by
  unfold Address.revise
  simp only [bind_eq_ok_iff]
  constructor
  · rintro ⟨o, read, changed, merged, params, written, same⟩
    exact ⟨o, changed, params, read, merged, written, Except.ok.inj same⟩
  · rintro ⟨o, changed, params, read, merged, written, rfl⟩
    exact ⟨o, read, changed, merged, params, written, rfl⟩

theorem reviseLink_eq_ok_iff (described : Capability.ofSpec spec = .ok c) {link : Text}
    {a : Address} (read : Address.read link = .ok a) {patch : Patch} (present : patch ≠ [])
    {final : Text} :
    reviseLink link patch spec p = .ok final ↔
      ∃ b, a.revise patch c p = .ok b ∧ b.text = final := by
  rw [reviseLink, if_neg (by simpa using present), described, read]
  show (a.revise patch c p >>= fun b => Except.ok b.text) = _ ↔ _
  rw [bind_eq_ok_iff]
  simp

/-- A revision that succeeds puts the page and the page size of its patch into the query. -/
theorem revised_of_reviseLink (described : Capability.ofSpec spec = .ok c)
    (sized : c.Sized p size greatest) {a : Address} (survives : a.Survives) {link : Text}
    {page pageSize : Int} (asks : Asks c p size greatest a link page pageSize) {patch : Patch}
    (present : patch ≠ []) (sets : ∀ change ∈ patch, change.SetsPaging) {final : Text}
    (revised : reviseLink link patch spec p = .ok final) :
    Revised c size a final ((Change.lastOf Change.page? patch).getD page)
      ((Change.lastOf Change.pageSize? patch).getD pageSize) := by
  obtain ⟨query, o, read, current, same, paged⟩ := asks
  obtain ⟨b, hb, rfl⟩ := (reviseLink_eq_ok_iff described read present).1 revised
  obtain ⟨o', changed, params, current', merged, written, rfl⟩ := Address.revise_eq_ok_iff.1 hb
  obtain rfl := Except.ok.inj (current.symm.trans current')
  rw [same] at merged
  obtain rfl := Except.ok.inj ((Query.merge_of_setsPaging sets page pageSize _ _).symm.trans merged)
  rw [sized.size] at written
  obtain ⟨writable, rfl⟩ := written_eq_ok_iff.1 written
  refine ⟨⟨_, ?_, request_write (foreignPairs_names query) _ (.int size) a⟩, writable, ?_, ?_⟩
  · exact Address.read_text_withQuery read survives fun ch hch => Form.write_isQueryChar hch
  · cases last : Change.lastOf Change.page? patch with
    | none => exact paged.page_pos
    | some n => exact Change.one_le_lastOf sets (.inl rfl) last
  · cases last : Change.lastOf Change.pageSize? patch with
    | none => exact paged.size_pos
    | some n => exact .inr (Change.one_le_lastOf sets (.inr rfl) last)

/-- Following a revised link gives the sorts and filters of the first address under the
capability, without a fault or a warning. -/
theorem Revised.follow_eq (described : Capability.ofSpec spec = .ok c)
    (sized : c.Sized p size greatest) (keeps : c.KeepsTexts) {a : Address}
    (noCommas : ∀ f ∈ (Request.readFilters a.request.filters c.outside).filters, ',' ∉ f.field)
    {link : Text} {page pageSize : Int} (revised : Revised c size a link page pageSize) :
    follow link spec p = .ok { query := a.request.query c page (min pageSize greatest) } := by
  obtain ⟨query, read, request⟩ := revised.read
  have again := Request.read_asked sized keeps noCommas revised.page_pos revised.size_pos
    revised.writable
  rw [follow, read, described]
  show ({ a with query } : Address).request.read c p = _
  rw [request]
  exact again

/-- A revised link goes on asking for the same. -/
theorem Revised.asks (sized : c.Sized p size greatest) (atLeastOne : 1 ≤ greatest)
    (keeps : c.KeepsTexts) {a : Address}
    (noCommas : ∀ f ∈ (Request.readFilters a.request.filters c.outside).filters, ',' ∉ f.field)
    {link : Text} {page pageSize : Int} (revised : Revised c size a link page pageSize) :
    Asks c p size greatest a link page (min pageSize greatest) := by
  obtain ⟨query, read, request⟩ := revised.read
  have sizedOutside : c.outside.Sized p size greatest := ⟨sized.size, sized.greatest⟩
  have keepsOutside : c.outside.KeepsTexts := keeps
  have again := Request.read_asked sizedOutside keepsOutside noCommas revised.page_pos
    revised.size_pos revised.writable
  have positive := revised.size_pos
  have pageWritable : (Number.whole page).writable = true := by
    have writable := revised.writable
    simp only [Query.writable, Request.query, Bool.and_eq_true] at writable
    exact writable.1.1
  refine ⟨query, _, read, (congrArg (·.read c.outside p) request).trans again, rfl,
    revised.page_pos, pageWritable, Int.min_le_right _ _, ?_⟩
  omega

/-! ## Runs -/

/-- A link after patches, one revision after the other, if each succeeds. -/
def reviseAll (spec : CapabilitySpec) (p : Preferences) (link : Text) (patches : List Patch) :
    Except Failure Text :=
  patches.foldlM (fun link patch => reviseLink link patch spec p) link

/-- After a run the page is the last one written. The page size is the last one written as far as
reading can tell, since it is held to the greatest at every step. -/
theorem revised_of_reviseAll (described : Capability.ofSpec spec = .ok c)
    (sized : c.Sized p size greatest) (atLeastOne : 1 ≤ greatest) (keeps : c.KeepsTexts)
    {a : Address} (survives : a.Survives)
    (noCommas : ∀ f ∈ (Request.readFilters a.request.filters c.outside).filters, ',' ∉ f.field)
    {patches : List Patch} (present : patches ≠ []) (nonempty : ∀ patch ∈ patches, patch ≠ [])
    (sets : ∀ patch ∈ patches, ∀ change ∈ patch, change.SetsPaging) {link : Text}
    {page pageSize : Int} (asks : Asks c p size greatest a link page pageSize) {final : Text}
    (run : reviseAll spec p link patches = .ok final) :
    ∃ written,
      Revised c size a final ((Change.lastOf Change.page? patches.flatten).getD page) written ∧
      min written greatest =
        min ((Change.lastOf Change.pageSize? patches.flatten).getD pageSize) greatest := by
  -- On the patches, with the link and its paging left open: a revised link `Asks` again.
  induction patches generalizing link page pageSize with
  | nil => exact absurd rfl present
  | cons patch rest ih =>
    obtain ⟨next, first, run⟩ := bind_eq_ok_iff.1 run
    have revised := revised_of_reviseLink described sized survives asks
      (nonempty patch List.mem_cons_self) (sets patch List.mem_cons_self) first
    cases rest with
    | nil =>
      obtain rfl : next = final := Except.ok.inj run
      rw [List.flatten_cons, List.flatten_nil, List.append_nil]
      exact ⟨_, revised, rfl⟩
    | cons other more =>
      obtain ⟨written, last, size_eq⟩ := ih (List.cons_ne_nil _ _)
        (fun q hq => nonempty q (List.mem_cons_of_mem patch hq))
        (fun q hq => sets q (List.mem_cons_of_mem patch hq))
        (revised.asks sized atLeastOne keeps noCommas) run
      rw [List.flatten_cons, Change.lastOf_append, Change.lastOf_append, Option.getD_or,
        Option.getD_or]
      refine ⟨written, last, size_eq.trans ?_⟩
      -- The size in between was held to the greatest when it was read, and holding it twice is
      -- holding it once.
      cases Change.lastOf Change.pageSize? (other :: more).flatten with
      | none => exact Int.min_eq_left (Int.min_le_right _ _)
      | some n => rfl

/-! ## The law -/

/-- A request that is read in its own words is read under the capability, with the same paging. -/
theorem read_of_read_outside (sized : c.Sized p size greatest) (atLeastOne : 1 ≤ greatest)
    {r : Request} {o : Outcome} (h : r.read c.outside p = .ok o) :
    ∃ o' page pageSize, r.read c p = .ok o' ∧ Request.Paged size greatest page pageSize ∧
      o.query = r.query c.outside page pageSize ∧ o'.query = r.query c page pageSize := by
  have paging : r.readPaging c.outside p = r.readPaging c p := rfl
  cases read : r.readPaging c p with
  | error f =>
    rw [Request.read_of_readPaging_error (paging.trans read)] at h
    contradiction
  | ok given =>
    obtain ⟨page, given, faults⟩ := given
    obtain ⟨pageSize, rfl, paged⟩ := Request.paged_of_readPaging sized atLeastOne read
    rw [Request.read_of_readPaging (paging.trans read)] at h
    rw [← Except.ok.inj h]
    exact ⟨_, page, pageSize, Request.read_of_readPaging read, paged, rfl, rfl⟩

/-- Clauses of rules whose fields have no commas have none either. -/
theorem comma_not_mem_of_rules {rules : List FieldRule} (listed : c.filterable = some rules)
    (plain : ∀ rule ∈ rules, ',' ∉ rule.field) (raw : Option Text) :
    ∀ f ∈ (Request.readFilters raw c.outside).filters, ',' ∉ f.field := by
  intro f hf
  obtain ⟨item, -, accepted⟩ := Request.mem_readFilters_iff.1 hf
  cases Request.decides_iff.2 accepted with
  | @clause e declared v cut grants value =>
    simp only [Capability.Grants, show c.outside.filterable = some rules from listed] at grants
    obtain ⟨rule, ⟨before, after, split, same, -⟩, -, -⟩ := grants
    show ',' ∉ e.field
    rw [← same]
    exact plain rule (by simp [split])

/-- A run of revisions of page and page size leaves what a link means as it was, but for the page
and the page size last written: its sorts and filters are those of the link at the start, and
nothing is left to complain about. -/
theorem follow_reviseAll (described : Capability.ofSpec spec = .ok c)
    (sized : c.Sized p size greatest) (atLeastOne : 1 ≤ greatest) {rules : List FieldRule}
    (listed : c.filterable = some rules)
    (plain : ∀ rule ∈ rules, ',' ∉ rule.field ∧ rule.declared ≠ some .number)
    {link : Text} {a : Address} (read : Address.read link = .ok a) (survives : a.Survives)
    {patches : List Patch} (present : patches ≠ []) (nonempty : ∀ patch ∈ patches, patch ≠ [])
    (sets : ∀ patch ∈ patches, ∀ change ∈ patch, change.SetsPaging) {final : Text}
    (run : reviseAll spec p link patches = .ok final) :
    ∃ o o', follow link spec p = .ok o ∧ follow final spec p = .ok o' ∧
      o'.faults = [] ∧ o'.warnings = [] ∧
      (∀ n, Change.lastOf Change.page? patches.flatten = some n → o'.query.page = .whole n) ∧
      (Change.lastOf Change.page? patches.flatten = none → o'.query.page = o.query.page) ∧
      (∀ n, Change.lastOf Change.pageSize? patches.flatten = some n →
        o'.query.pageSize = .whole (min n greatest)) ∧
      (Change.lastOf Change.pageSize? patches.flatten = none →
        o'.query.pageSize = o.query.pageSize) ∧
      o'.query.sorts = o.query.sorts ∧ o'.query.filters = o.query.filters := by
  have keeps : c.KeepsTexts := by
    intro other given rule hrule
    rw [listed] at given
    exact (plain rule (Option.some.inj given ▸ hrule)).2
  have noCommas := comma_not_mem_of_rules listed (fun rule hrule => (plain rule hrule).1)
    a.request.filters
  -- The first revision reads the link at the start, so that following it succeeds.
  obtain ⟨start, current⟩ : ∃ o, a.request.read c.outside p = .ok o := by
    cases patches with
    | nil => exact absurd rfl present
    | cons patch rest =>
      obtain ⟨next, first, -⟩ := bind_eq_ok_iff.1 run
      obtain ⟨b, revised, -⟩ :=
        (reviseLink_eq_ok_iff described read (nonempty patch List.mem_cons_self)).1 first
      obtain ⟨o, -, -, current, -⟩ := Address.revise_eq_ok_iff.1 revised
      exact ⟨o, current⟩
  obtain ⟨o, page, pageSize, followed, paged, startQuery, query⟩ :=
    read_of_read_outside sized atLeastOne current
  have asks : Asks c p size greatest a link page pageSize :=
    ⟨a.query, start, read, current, startQuery, paged⟩
  obtain ⟨written, revised, size_eq⟩ := revised_of_reviseAll described sized atLeastOne keeps
    survives noCommas present nonempty sets asks run
  have start_eq : follow link spec p = .ok o := by
    rw [follow, read, described]
    exact followed
  refine ⟨o, _, start_eq, revised.follow_eq described sized keeps noCommas, rfl, rfl,
    ?_, ?_, ?_, ?_, by rw [query]; rfl, by rw [query]; rfl⟩
  · intro n last
    rw [last]
    rfl
  · intro last
    rw [last, query]
    rfl
  · intro n last
    rw [last] at size_eq
    exact congrArg Number.whole size_eq
  · intro last
    rw [last] at size_eq
    rw [query]
    exact congrArg Number.whole (size_eq.trans (Int.min_eq_left paged.within))

end

/-- A shop that knows brands under another name inside and sorts by the newest. -/
def shopSpec : CapabilitySpec where
  maxPageSize := ⟨some (some (.int 50)), none⟩
  defaultSort := ⟨some (some (.token "-created".toList)), none⟩
  filterable := ⟨some (some [{ field := some "brand".toList, operators := ["=="] }]), none⟩
  mappings := ⟨some (some [("brand", "brand.name")]), none⟩

/-- What the description of the shop says. -/
def shop : Capability where
  maxPageSize := some (.int 50)
  defaultSort := some ⟨"created", .descending⟩
  filterable := some [{ field := "brand", operators := ["=="] }]
  mappings := [("brand", "brand.name")]

theorem described_shop : Capability.ofSpec shopSpec = .ok shop :=
  rfl

/-- The link of a search in the shop. -/
def shopLink : Text :=
  "https://shop.test/tv?x=1&page=0&filters=brand==a%5C%2Cb,size>4&sorts=-price#top"

/-- The parts of that link. -/
def shopAddress : Address where
  scheme := "https"
  host := "shop.test"
  path := "/tv"
  query := "x=1&page=0&filters=brand==a%5C%2Cb,size>4&sorts=-price"
  fragment := "top"

/-- The next pages of a search, with a page size that is too large. -/
theorem follow_reviseAll_shop : ∃ final o o',
    reviseAll shopSpec {} shopLink
      [[.page (some 2)], [.pageSize true (some 80), .page (some 3)]] = .ok final ∧
    follow shopLink shopSpec {} = .ok o ∧ follow final shopSpec {} = .ok o' ∧
    o'.faults = [] ∧ o'.warnings = [] ∧ o'.query.page = 3 ∧ o'.query.pageSize = 50 ∧
    o'.query.sorts = o.query.sorts ∧ o'.query.filters = o.query.filters := by
  have sized : shop.Sized {} 20 50 := ⟨rfl, rfl⟩
  have read : Address.read shopLink = .ok shopAddress := rfl
  have survives : shopAddress.Survives := rfl
  have succeeds : (reviseAll shopSpec {} shopLink
      [[.page (some 2)], [.pageSize true (some 80), .page (some 3)]]).isOk = true := by
    decide +kernel
  cases run : reviseAll shopSpec {} shopLink
      [[.page (some 2)], [.pageSize true (some 80), .page (some 3)]] with
  | error f =>
    rw [run] at succeeds
    exact absurd succeeds Bool.false_ne_true
  | ok final =>
    obtain ⟨o, o', start, last, faults, warnings, page, -, pageSize, -, sorts, filters⟩ :=
      follow_reviseAll described_shop sized (by decide) rfl (by decide) read survives
        (by simp) (by simp) (by simp [Change.SetsPaging]) run
    exact ⟨final, o, o', rfl, start, last, faults, warnings, page 3 rfl, pageSize 80 rfl, sorts,
      filters⟩

/-! ## What a revision leaves alone -/

section
variable {spec : CapabilitySpec} {p : Preferences}

/-- An address that asks by parameters in place of another's: all but the query is as it was, and
the pairs of the query are those under foreign names, in their order and with their values, and then
the parameters, of each name at most one and in the order of the names. -/
structure Address.AsksInPlaceOf (b a : Address) (params : List (Text × Text)) : Prop where
  scheme : b.scheme = a.scheme
  host : b.host = a.host
  path : b.path = a.path
  fragment : b.fragment = a.fragment
  pairs : Form.read b.query =
    (Form.read a.query).filter (fun pair => pair.1 ∉ parameterNames) ++ params
  names : (params.map Prod.fst).Sublist parameterNames

theorem names_paramUnless (isDefault : Bool) (name value : Text) :
    ((paramUnless isDefault name value).map Prod.fst).Sublist [name] := by
  cases isDefault with
  | true => exact List.nil_sublist _
  | false => exact List.Sublist.refl _

/-- The parameters of a query have different names, in order. -/
theorem names_params (q : Query) (defaultPageSize : Value) :
    ((q.params defaultPageSize).map Prod.fst).Sublist parameterNames := by
  rw [Query.params, List.map_append, List.map_append, List.map_append]
  exact (((names_paramUnless ..).append (names_paramUnless ..)).append
    (names_paramUnless ..)).append (names_paramUnless ..)

theorem foreignPairs_eq (query : Text) :
    foreignPairs query = (Form.read query).filter fun pair => pair.1 ∉ parameterNames := by
  unfold foreignPairs
  congr 1
  funext pair
  simp

/-- A revision that succeeds replaces the parameters of the request by those of the changed query
and leaves everything else alone: the other parameters keep their places, repetitions and blank
values. -/
theorem reviseLink_keeps_foreign {link : Text} {a : Address} (read : Address.read link = .ok a)
    (survives : a.Survives) {patch : Patch} (present : patch ≠ []) {final : Text}
    (revised : reviseLink link patch spec p = .ok final) :
    ∃ c o changed params b, Capability.ofSpec spec = .ok c ∧
      a.request.read c.outside p = .ok o ∧ o.query.merge patch = .ok changed ∧
      changed.written (c.pageSize p) = .ok params ∧ Address.read final = .ok b ∧
      b.AsksInPlaceOf a params := by
  obtain ⟨c, described⟩ : ∃ c, Capability.ofSpec spec = .ok c := by
    rw [reviseLink, if_neg (by simpa using present)] at revised
    obtain ⟨c, described, -⟩ := bind_eq_ok_iff.1 revised
    exact ⟨c, described⟩
  obtain ⟨b, hb, rfl⟩ := (reviseLink_eq_ok_iff described read present).1 revised
  obtain ⟨o, changed, params, current, merged, written, rfl⟩ := Address.revise_eq_ok_iff.1 hb
  have address : Address.read (a.asking params).text = .ok (a.asking params) :=
    Address.read_text_withQuery read survives fun ch hch => Form.write_isQueryChar hch
  refine ⟨c, o, changed, params, _, described, current, merged, written, address, rfl, rfl, rfl,
    rfl, ?_, ?_⟩
  · rw [Address.asking, Form.read_write, foreignPairs_eq]
  · obtain ⟨-, rfl⟩ := written_eq_ok_iff.1 written
    exact names_params changed _

end

/-- A link with other parameters before, between and after those of a request: one name twice, one
without a value, an octet that is no character, and no name at all. -/
def taggedLink : Text :=
  "http://shop.test/tv?tag=a+b&page=2&tag&sorts=-price&x=%FF&page=7&=#top"

/-- The parts of that link. -/
def taggedAddress : Address where
  scheme := "http"
  host := "shop.test"
  path := "/tv"
  query := "tag=a+b&page=2&tag&sorts=-price&x=%FF&page=7&="
  fragment := "top"

/-- The link with another page size. -/
def resizedLink : Text :=
  "http://shop.test/tv?tag=a+b&tag=&x=%EF%BF%BD&=&page=2&pageSize=50&sorts=-price#top"

def resizedParams : List (Text × Text) :=
  [("page", "2"), ("pageSize", "50"), ("sorts", "-price")]

theorem reviseLink_keeps_foreign_tagged :
    reviseLink taggedLink [.pageSize true (some 50), .page none] {} {} = .ok resizedLink ∧
    ∃ b, Address.read resizedLink = .ok b ∧ b.AsksInPlaceOf taggedAddress resizedParams := by
  have read : Address.read taggedLink = .ok taggedAddress := rfl
  have survives : taggedAddress.Survives := rfl
  have revised : reviseLink taggedLink [.pageSize true (some 50), .page none] {} {} =
      .ok resizedLink := by
    decide +kernel
  obtain ⟨-, -, -, params, b, -, -, -, -, hb, asks⟩ :=
    reviseLink_keeps_foreign read survives (List.cons_ne_nil _ _) revised
  refine ⟨revised, b, hb, ?_⟩
  have parts : Address.read resizedLink = .ok { taggedAddress with
      query := "tag=a+b&tag=&x=%EF%BF%BD&=&page=2&pageSize=50&sorts=-price" } := rfl
  obtain rfl := Except.ok.inj (parts.symm.trans hb)
  -- The foreign pairs are the same on both sides, so the parameters are what follows them.
  have pairs : Form.read "tag=a+b&tag=&x=%EF%BF%BD&=&page=2&pageSize=50&sorts=-price" =
      (Form.read taggedAddress.query).filter (fun pair => pair.1 ∉ parameterNames) ++
        resizedParams := by
    decide +kernel
  obtain rfl : params = resizedParams := List.append_cancel_left (asks.pairs.symm.trans pairs)
  exact asks

end Listing
