import Listing.Proofs.Readable
import Listing.Proofs.Revision
import Listing.Proofs.Separation

/-!
# Filters put into a link

A link is revised by a list of filters and followed again. An open endpoint then reads what the
written list of those filters says (`exists_follow_filters_eq_iff`), which is those filters exactly
if they can be recovered from it (`exists_follow_filters_iff`). For one filter with a plain name
that is a question of its token and its value alone: they stand side by side in the list, so a value
that begins with what makes a longer token of the operator's gives another operator, and every other
value comes back (`follow_handed_filter_iff`).
-/

namespace Listing

/-! ## Tokens completed by values -/

namespace Operator

/-- What makes a longer token of an operator's. -/
def completion? : Operator → Option Text
  | equal | notEqual => some "null"
  | contains | startsWith => some "*"
  | greaterThan | lessThan => some "="
  | isNotNull | isNull | notEndsWith | endsWith | notContains | containsStarred | notStartsWith
  | startsWithStarred | greaterOrEqual | lessOrEqual => none

/-- A value that begins with what makes a longer token of an operator's. -/
def CompletedBy (op : Operator) (value : Text) : Prop :=
  ∃ tail, op.completion? = some tail ∧ tail <+: value

instance (op : Operator) (value : Text) : Decidable (op.CompletedBy value) :=
  decidable_of_iff (op.completion?.any (·.isPrefixOf value) = true) (by
    unfold CompletedBy
    cases op.completion? <;> simp)

/-- A token that begins with another one is that token or the completed one. -/
theorem eq_or_completion {op other : Operator} (begins : op.token <+: other.token) :
    other = op ∨ ∃ tail, op.completion? = some tail ∧ other.token = op.token ++ tail := by
  obtain ⟨tail, split⟩ := begins
  have parts : other = op ∨ op.completion? = some (other.token.drop op.token.length) := by
    have begins := List.isPrefixOf_iff_prefix.2 ⟨tail, split⟩
    revert begins
    clear split
    cases op <;> cases other <;> decide
  refine parts.imp_right fun completed => ⟨_, completed, ?_⟩
  rw [← split, List.drop_left]

theorem token_completed {op : Operator} {tail : Text} (completed : op.completion? = some tail) :
    tail ≠ [] ∧ ∃ other : Operator, other.token = op.token ++ tail := by
  revert completed
  cases op with
  | equal => rintro ⟨⟩; exact ⟨by decide, .isNull, rfl⟩
  | notEqual => rintro ⟨⟩; exact ⟨by decide, .isNotNull, rfl⟩
  | contains => rintro ⟨⟩; exact ⟨by decide, .containsStarred, rfl⟩
  | startsWith => rintro ⟨⟩; exact ⟨by decide, .startsWithStarred, rfl⟩
  | greaterThan => rintro ⟨⟩; exact ⟨by decide, .greaterOrEqual, rfl⟩
  | lessThan => rintro ⟨⟩; exact ⟨by decide, .lessOrEqual, rfl⟩
  | isNotNull | isNull | notEndsWith | endsWith | notContains | containsStarred | notStartsWith
  | startsWithStarred | greaterOrEqual | lessOrEqual => exact nofun

/-- An operator's token is the longest one before a value that does not complete it. -/
theorem longest_iff {op : Operator} {value : Text} :
    (∀ other : Operator, other.token <+: op.token ++ value →
      other.token.length ≤ op.token.length) ↔ ¬ op.CompletedBy value := by
  constructor
  · rintro longest ⟨tail, completed, begins⟩
    obtain ⟨present, other, token⟩ := token_completed completed
    have fits : other.token <+: op.token ++ value := by
      rw [token]
      exact (List.prefix_append_right_inj _).2 begins
    have bound := longest other fits
    rw [token, List.length_append] at bound
    exact present (List.length_eq_zero_iff.1 (by omega))
  · intro apart other fits
    by_contra longer
    -- Of two starts of one text the shorter is a start of the longer.
    have begins := List.prefix_of_prefix_length_le (List.prefix_append op.token value) fits
      (Nat.le_of_not_le longer)
    rcases eq_or_completion begins with rfl | ⟨tail, completed, token⟩
    · exact longer (Nat.le_refl _)
    · rw [token] at fits
      exact apart ⟨tail, completed, (List.prefix_append_right_inj _).1 fits⟩

/-- No token begins with a letter or a digit. -/
theorem not_prefix_of_isAlphanum {ch : Char} (named : ch.isAlphanum = true) (op : Operator)
    (rest : Text) : ¬ op.token <+: ch :: rest := by
  intro begins
  have head : op.token.head? = some ch := by
    cases token : op.token with
    | nil => exact absurd token op.token_ne_nil
    | cons d more =>
      rw [token] at begins
      exact congrArg some (List.cons_prefix_cons.1 begins).1
  have mark : ∀ op : Operator, op.token.head?.any Char.isAlphanum = false := by
    intro op
    cases op <;> decide
  have none := mark op
  rw [head] at none
  exact absurd named (by simpa using none)

end Operator

/-- Names of letters and digits hold no token, so only the value decides on the cut. -/
theorem Expression.cut_named_iff {field value : Text} {op : Operator}
    (named : ∀ ch ∈ field, ch.isAlphanum = true) :
    Cut (text ⟨field, op, value⟩) ⟨field, op, value⟩ ↔ field ≠ [] ∧ ¬ op.CompletedBy value := by
  rw [← Operator.longest_iff]
  constructor
  · rintro ⟨-, present, -, longest⟩
    exact ⟨present, longest⟩
  · rintro ⟨present, longest⟩
    refine ⟨rfl, present, fun i _ within other => ?_, longest⟩
    rw [text, List.append_assoc, List.drop_append_of_le_length (Nat.le_of_lt within),
      List.drop_eq_getElem_cons within, List.cons_append]
    exact other.not_prefix_of_isAlphanum (named _ (List.getElem_mem within)) _

/-- A filter with a plain name can be recovered exactly if its value does not complete its
token. -/
theorem FilterClause.recoverable_named_iff {field value : Text} {op : Operator}
    (named : ∀ ch ∈ field, ch.isAlphanum = true) (valued : op.checksNull = false) :
    (ofOperator field op (.text value)).Recoverable ↔ field ≠ [] ∧ ¬ op.CompletedBy value := by
  rw [← Expression.cut_named_iff named]
  have clause : Expression.clause ⟨field, op, value⟩ = ofOperator field op (.text value) := by
    simp [Expression.clause, valued]
  have noComma : ',' ∉ field := fun comma => absurd (named ',' comma) (by decide)
  constructor
  · rintro ⟨⟨otherField, other, otherValue⟩, cut, -, -, same⟩
    obtain ⟨sameField, sameToken, sameValue⟩ : field = otherField ∧ op.token = other.token ∧
        Value.text value = if other.checksNull then .null else .text otherValue := by
      simpa [Expression.clause, ofOperator] using ⟨congrArg FilterClause.field same,
        congrArg FilterClause.token same, congrArg FilterClause.value same⟩
    obtain rfl := Operator.token_injective sameToken
    subst sameField
    rw [valued] at sameValue
    obtain rfl := Value.text.inj sameValue
    exact cut
  · intro cut
    refine ⟨⟨field, op, value⟩, cut, noComma, fun null => ?_, clause.symm⟩
    rw [show op.checksNull = true from null] at valued
    cases valued

/-! ## Links -/

theorem FilterClause.Recoverable.value_writable {f : FilterClause} (h : f.Recoverable) :
    f.value.writable = true := by
  obtain ⟨e, -, -, -, rfl⟩ := h
  cases checks : e.op.checksNull with
  | true => simp [Expression.clause, ofOperator, checks, Value.writable]
  | false => simp [Expression.clause, ofOperator, checks, Value.writable]

/-- An integer that can be written can be read. -/
theorem Request.not_overlong_intText {n : Int} (writable : (Number.whole n).writable = true) :
    ¬ Overlong (intText n) := by
  obtain ⟨sign, whole⟩ := leadingInteger_intText n
  exact not_overlong whole (of_decide_eq_true writable)

theorem Query.merge_filters {specs : List FilterSpec} {filters : List FilterClause}
    (described : specs.mapM FilterSpec.toClause = .ok filters) (q : Query) :
    q.merge [.filters (some specs)] = .ok { q with filters } := by
  show (Change.apply (.filters (some specs)) q >>= fun q => Except.ok q) = _
  rw [Change.apply, described]
  rfl

section
variable {spec : CapabilitySpec} {c : Capability} {p : Preferences} {size greatest : Int}

theorem Capability.Sized.numeric (sized : c.Sized p size greatest) : c.Numeric p :=
  ⟨⟨_, sized.size⟩, ⟨_, sized.greatest⟩⟩

/-- The request of a query that can be written can be read. -/
theorem Query.exists_read_asked (sized : c.Sized p size greatest) {q : Query} {page pageSize : Int}
    (paged : q.page = .whole page) (measured : q.pageSize = .whole pageSize)
    (writable : q.writable (.int size) = true) : ∃ o, (q.asked (.int size)).read c p = .ok o := by
  simp only [Query.writable, measured, paged, Bool.and_eq_true, Bool.or_eq_true] at writable
  obtain ⟨⟨pageWritable, sizeWritable⟩, -⟩ := writable
  rw [exists_read_iff sized.numeric]
  constructor
  · intro t written
    rw [Query.asked, paged] at written
    obtain ⟨-, same⟩ := Option.ite_none_left_eq_some.1 written
    obtain rfl := Option.some.inj same
    exact Request.not_overlong_intText pageWritable
  · intro t written
    rw [Query.asked, measured] at written
    obtain ⟨apart, same⟩ := Option.ite_none_left_eq_some.1 written
    obtain rfl := Option.some.inj same
    exact Request.not_overlong_intText (sizeWritable.resolve_left apart)

/-- Following an address that asks for a query reads the query's request. -/
theorem follow_asking (described : Capability.ofSpec spec = .ok c) {link : Text} {a : Address}
    (read : Address.read link = .ok a) (survives : a.Survives) (q : Query)
    (defaultPageSize : Value) :
    follow (a.asking (q.params defaultPageSize)).text spec p =
      (q.asked defaultPageSize).read c p := by
  have address : Address.read (a.asking (q.params defaultPageSize)).text =
      .ok (a.asking (q.params defaultPageSize)) :=
    Address.read_text_withQuery read survives fun ch hch => Form.write_isQueryChar hch
  rw [follow, address, described]
  exact congrArg (·.read c p) (request_write (foreignPairs_names a.query) q defaultPageSize a)

/-- A query that was read can be written with other filters if its page size can be written, or need
not be, and the filters' values can. Its page always can. -/
theorem Query.writable_filters_iff (sized : c.Sized p size greatest) {r : Request} {o : Outcome}
    (read : r.read c p = .ok o) (filters : List FilterClause) :
    ({ o.query with filters } : Query).writable (.int size) = true ↔
      (o.query.pageSize = .whole size ∨ o.query.pageSize.writable = true) ∧
        ∀ f ∈ filters, f.value.writable = true := by
  obtain ⟨page, _, _, paging, query⟩ := Request.exists_readPaging_of_read read
  obtain ⟨-, pageWritable, _, -, rfl⟩ := Request.facts_of_readPaging sized paging
  have paged : o.query.page.writable = true := by
    rw [query]
    exact pageWritable
  have same : (Value.number o.query.pageSize).same (.int size) = true ↔
      o.query.pageSize = .whole size := by
    rw [query]
    simp
  simp only [Query.writable, Bool.and_eq_true, Bool.or_eq_true, List.all_eq_true, same, paged,
    true_and]

/-- Filters put into an address take the place of those that its request was read with. -/
theorem Address.revise_filters_eq_ok_iff (isOpen : c.Open) (sized : c.Sized p size greatest)
    {specs : List FilterSpec} {filters : List FilterClause}
    (specified : specs.mapM FilterSpec.toClause = .ok filters) {a b : Address} :
    a.revise [.filters (some specs)] c p = .ok b ↔ ∃ o, a.request.read c p = .ok o ∧
      ({ o.query with filters } : Query).writable (.int size) = true ∧
      a.asking (({ o.query with filters } : Query).params (.int size)) = b := by
  rw [Address.revise_eq_ok_iff, isOpen.outside_eq, sized.size]
  constructor
  · rintro ⟨o, changed, params, current, merged, written, rfl⟩
    obtain rfl := Except.ok.inj ((Query.merge_filters specified _).symm.trans merged)
    obtain ⟨writable, rfl⟩ := written_eq_ok_iff.1 written
    exact ⟨o, current, writable, rfl⟩
  · rintro ⟨o, current, writable, rfl⟩
    exact ⟨o, _, _, current, Query.merge_filters specified o.query,
      written_eq_ok_iff.2 ⟨writable, rfl⟩, rfl⟩

/-- A link that can be read, and written again with its own page and page size. -/
def Address.Revisable (a : Address) (c : Capability) (p : Preferences) (size : Int) : Prop :=
  ∃ o, a.request.read c p = .ok o ∧
    (o.query.pageSize = .whole size ∨ o.query.pageSize.writable = true)

/-- Following a link of an open endpoint that filters were put into gives what their written list is
read as, exactly if the link can be revised and the filters can be written. -/
theorem exists_follow_filters_eq_iff (described : Capability.ofSpec spec = .ok c)
    (isOpen : c.Open) (sized : c.Sized p size greatest) {link : Text} {a : Address}
    (read : Address.read link = .ok a) (survives : a.Survives) {specs : List FilterSpec}
    {filters : List FilterClause} (specified : specs.mapM FilterSpec.toClause = .ok filters)
    (given : List FilterClause) :
    (∃ final o, reviseLink link [.filters (some specs)] spec p = .ok final ∧
        follow final spec p = .ok o ∧ o.query.filters = given) ↔
      a.Revisable c p size ∧ (∀ f ∈ filters, f.value.writable = true) ∧
        (Request.readFilters (some (filtersText filters)) c).filters = given := by
  have revises (final : Text) : reviseLink link [.filters (some specs)] spec p = .ok final ↔
      ∃ b, a.revise [.filters (some specs)] c p = .ok b ∧ b.text = final :=
    reviseLink_eq_ok_iff described read (List.cons_ne_nil _ _)
  have reread {q : Query} {o : Outcome} (asked : (q.asked (.int size)).read c p = .ok o) :
      o.query.filters = (Request.readFilters (some (filtersText q.filters)) c).filters := by
    obtain ⟨_, _, _, -, query⟩ := Request.exists_readPaging_of_read asked
    rw [query]
    exact congrArg Request.Filtering.filters (Request.readFilters_asked (.int size))
  constructor
  · rintro ⟨final, o', revised, followed, same⟩
    obtain ⟨b, hb, rfl⟩ := (revises final).1 revised
    obtain ⟨o, current, writable, rfl⟩ :=
      (Address.revise_filters_eq_ok_iff isOpen sized specified).1 hb
    obtain ⟨fits, values⟩ := (Query.writable_filters_iff sized current filters).1 writable
    rw [follow_asking described read survives] at followed
    exact ⟨⟨o, current, fits⟩, values, (reread followed).symm.trans same⟩
  · rintro ⟨⟨o, current, fits⟩, values, same⟩
    have writable := (Query.writable_filters_iff sized current filters).2 ⟨fits, values⟩
    have revised := (Address.revise_filters_eq_ok_iff isOpen sized specified).2
      ⟨o, current, writable, rfl⟩
    obtain ⟨o', asked⟩ : ∃ o', (({ o.query with filters } : Query).asked (.int size)).read c p =
        .ok o' := by
      obtain ⟨page, _, _, paging, query⟩ := Request.exists_readPaging_of_read current
      obtain ⟨-, -, _, -, rfl⟩ := Request.facts_of_readPaging sized paging
      rw [query] at writable ⊢
      exact Query.exists_read_asked sized rfl rfl writable
    exact ⟨_, o', (revises _).2 ⟨_, revised, rfl⟩,
      (follow_asking described read survives _ _).trans asked, (reread asked).trans same⟩

/-- Filters put into a link of an open endpoint are those that following it gives exactly if the
link can be revised, each of them can be cut out of its own expression, and no value but the last
ends with a backslash. -/
theorem exists_follow_filters_iff (described : Capability.ofSpec spec = .ok c) (isOpen : c.Open)
    (sized : c.Sized p size greatest) {link : Text} {a : Address}
    (read : Address.read link = .ok a) (survives : a.Survives) {specs : List FilterSpec}
    {filters : List FilterClause} (specified : specs.mapM FilterSpec.toClause = .ok filters) :
    (∃ final o, reviseLink link [.filters (some specs)] spec p = .ok final ∧
        follow final spec p = .ok o ∧ o.query.filters = filters) ↔
      a.Revisable c p size ∧
      (∀ f ∈ filters, f.Recoverable) ∧ ∀ f ∈ filters.dropLast, ¬ f.EndsWithBackslash := by
  rw [exists_follow_filters_eq_iff described isOpen sized read survives specified]
  constructor
  · rintro ⟨revisable, -, reread⟩
    exact ⟨revisable, recoverable_of_reread isOpen reread⟩
  · rintro ⟨revisable, recoverable, closed⟩
    exact ⟨revisable, fun f hf => (recoverable f hf).value_writable,
      congrArg Request.Filtering.filters (readFilters_of_recoverable isOpen recoverable closed)⟩

/-- A filter described by an operator's token is the clause of that operator. -/
theorem FilterSpec.mapM_toClause_named (field : Text) (op : Operator) (value : Value) :
    [FilterSpec.parts (some field) (some (.text op.token)) value {} {}].mapM
      FilterSpec.toClause = .ok [.ofOperator field op value] := by
  simp [FilterSpec.toClause, required, Operator.ofMember, Operator.ofToken, Spelled.get?,
    FilterClause.ofOperator, bind, Except.bind, pure, Except.pure]

/-- A filter put into a link of an open endpoint, with a name of letters and digits and an operator
that takes a value, is the one filter that following the link gives, exactly if it has a name, its
value does not begin with what makes a longer token of the operator's, and the link can be read and
written at all. -/
theorem follow_handed_filter_iff (described : Capability.ofSpec spec = .ok c) (isOpen : c.Open)
    (sized : c.Sized p size greatest) {link : Text} {a : Address}
    (read : Address.read link = .ok a) (survives : a.Survives) {field : Text}
    (named : ∀ ch ∈ field, ch.isAlphanum = true) {op : Operator} (valued : op.checksNull = false)
    (value : Text) :
    (∃ final o, reviseLink link
        [.filters (some [.parts (some field) (some (.text op.token)) (.text value) {} {}])] spec p =
          .ok final ∧
        follow final spec p = .ok o ∧ o.query.filters = [.ofOperator field op (.text value)]) ↔
      field ≠ [] ∧ ¬ op.CompletedBy value ∧ a.Revisable c p size := by
  rw [exists_follow_filters_iff described isOpen sized read survives
      (FilterSpec.mapM_toClause_named field op (.text value)),
    List.forall_mem_singleton, FilterClause.recoverable_named_iff named valued]
  constructor
  · rintro ⟨revisable, ⟨present, apart⟩, -⟩
    exact ⟨present, apart, revisable⟩
  · rintro ⟨present, apart, revisable⟩
    exact ⟨revisable, ⟨present, apart⟩, nofun⟩

end

/-- A link of a list of articles, with a parameter of another kind. -/
def articlesLink : Text := "/articles?tag=new"

def articlesAddress : Address where
  path := "/articles"
  query := "tag=new"

theorem read_articlesLink : Address.read articlesLink = .ok articlesAddress :=
  rfl

theorem survives_articlesAddress : articlesAddress.Survives :=
  rfl

theorem revisable_articlesAddress : articlesAddress.Revisable {} {} 20 := by
  have request : articlesAddress.request = {} := rfl
  have current := Request.read_unpaged sized_standard none none
  rw [Address.Revisable, request]
  exact ⟨_, current, .inl rfl⟩

/-- A value that looks like the rest of an operator, but not of this one, comes back. -/
theorem follow_handed_filter_articles :
    ∃ final o, reviseLink articlesLink [.filters (some [.parts (some "title")
        (some (.text "!@=")) (.text "*null,=\\") {} {}])] {} {} = .ok final ∧
      follow final {} {} = .ok o ∧
      o.query.filters = [.ofOperator "title" .notContains (.text "*null,=\\")] := by
  have named : ∀ ch ∈ "title".toList, ch.isAlphanum = true := List.all_eq_true.1 rfl
  have valued : Operator.notContains.checksNull = false := rfl
  have handed := follow_handed_filter_iff described_standard open_standard sized_standard
    read_articlesLink survives_articlesAddress named valued "*null,=\\"
  exact handed.2 ⟨by decide, by decide, revisable_articlesAddress⟩

/-- A value that begins with `null` turns an equality into a null check. -/
theorem follow_completed_fails :
    Capability.ofSpec {} = .ok {} ∧ ({} : Capability).Open ∧
    (∀ ch ∈ "title".toList, ch.isAlphanum = true) ∧ Operator.equal.checksNull = false ∧
    ∃ final o, reviseLink articlesLink [.filters (some [.parts (some "title")
        (some (.text "==")) (.text "nullable") {} {}])] {} {} = .ok final ∧
      follow final {} {} = .ok o ∧
      o.query.filters = [.ofOperator "title" .isNull .null] ∧
      o.query.filters ≠ [.ofOperator "title" .equal (.text "nullable")] := by
  have specified := FilterSpec.mapM_toClause_named "title" .equal (.text "nullable")
  have reread : (Request.readFilters (some (filtersText
      [.ofOperator "title" .equal (.text "nullable")])) {}).filters =
        [.ofOperator "title" .isNull .null] := rfl
  obtain ⟨final, o, revised, followed, same⟩ :=
    (exists_follow_filters_eq_iff described_standard open_standard sized_standard
      read_articlesLink survives_articlesAddress specified _).2
      ⟨revisable_articlesAddress, by decide, reread⟩
  refine ⟨described_standard, open_standard, List.all_eq_true.1 rfl, rfl, final, o, revised,
    followed, same, ?_⟩
  rw [same]
  simp [FilterClause.ofOperator]

end Listing
