import Mathlib
import Listing.Query

/-!
# One patch over another

A patch can be put on every query or on none. What it does is its update: for each part of a query
the last thing that a change says of it.

Named changes are not put after a patch but over it: key by key, each in the place of the change
under its key, and nulls and the two spellings of the page size are only looked at in the patch that
results.

* **changes**: the patch that results has the later change under a key (`changeAt_overlay`);
* **order**: its keys stand in the order of the earlier patch, and new ones at the end
  (`before_overlay_iff`);
* **parts with one key**: of such a part it says what the later patch says, or else the earlier,
  unless a null of the later erases that (`last_overlay_iff`).
-/

namespace Listing

/-! ## Updates -/

/-- What replaces the parts of a query, where there is something. -/
structure Update where
  page : Option Number := none
  pageSize : Option Number := none
  sorts : Option (List SortClause) := none
  filters : Option (List FilterClause) := none

namespace Update

def on (u : Update) (q : Query) : Query where
  page := u.page.getD q.page
  pageSize := u.pageSize.getD q.pageSize
  sorts := u.sorts.getD q.sorts
  filters := u.filters.getD q.filters

/-- An update after an earlier one. -/
def after (u earlier : Update) : Update where
  page := u.page.or earlier.page
  pageSize := u.pageSize.or earlier.pageSize
  sorts := u.sorts.or earlier.sorts
  filters := u.filters.or earlier.filters

theorem on_after (u earlier : Update) (q : Query) :
    (u.after earlier).on q = u.on (earlier.on q) := by
  simp only [on, after, Option.getD_or]

theorem eq_of_getD_eq {α : Type} (other : ∀ a : α, ∃ b, b ≠ a) {o o' : Option α}
    (same : ∀ a, o.getD a = o'.getD a) : o = o' := by
  cases o with
  | none =>
    cases o' with
    | none => rfl
    | some x =>
      obtain ⟨y, apart⟩ := other x
      exact absurd (same y) apart
  | some x =>
    cases o' with
    | none =>
      obtain ⟨y, apart⟩ := other x
      exact absurd (same y).symm apart
    | some y => exact congrArg some (same x)

/-- Updates that do the same to every query are the same. -/
theorem eq_of_on_eq {u v : Update} (same : ∀ q, u.on q = v.on q) : u = v := by
  have number (n : Number) : ∃ m, m ≠ n := by
    by_cases zero : n = .whole 0
    · exact ⟨.whole 1, by simp [zero]⟩
    · exact ⟨.whole 0, fun h => zero h.symm⟩
  have page := eq_of_getD_eq number fun n => congrArg Query.page (same ⟨n, n, [], []⟩)
  have pageSize := eq_of_getD_eq number fun n => congrArg Query.pageSize (same ⟨n, n, [], []⟩)
  have sorts := eq_of_getD_eq (fun s => ⟨⟨[], .ascending⟩ :: s, List.cons_ne_self _ s⟩) fun s =>
    congrArg Query.sorts (same ⟨.whole 0, .whole 0, s, []⟩)
  have filters := eq_of_getD_eq
    (fun f => ⟨{ field := [], token := [] } :: f, List.cons_ne_self _ f⟩)
    fun f => congrArg Query.filters (same ⟨.whole 0, .whole 0, [], f⟩)
  cases u
  cases v
  simp_all

end Update

/-! ## Changes -/

namespace Change

/-- A change that leaves its part as it is. -/
def IsNull : Change → Prop
  | page none | pageSize _ none | sorts none | filters none => True
  | _ => False

/-- A change that can be put on a query. -/
def Allowed : Change → Prop
  | page (some n) | pageSize _ (some n) => n.less 1 = false
  | sorts (some specs) => ∃ clauses, specs.mapM SortSpec.toClause = .ok clauses
  | filters (some specs) => ∃ clauses, specs.mapM FilterSpec.toClause = .ok clauses
  | misfit .. | unknown _ => False
  | _ => True

instance (c : Change) : Decidable c.Allowed :=
  match c with
  | page (some n) | pageSize _ (some n) => inferInstanceAs (Decidable (n.less 1 = false))
  | sorts (some specs) =>
    match made : specs.mapM SortSpec.toClause with
    | .ok clauses => isTrue ⟨clauses, made⟩
    | .error _ => isFalse fun ⟨_, valid⟩ => nomatch made.symm.trans valid
  | filters (some specs) =>
    match made : specs.mapM FilterSpec.toClause with
    | .ok clauses => isTrue ⟨clauses, made⟩
    | .error _ => isFalse fun ⟨_, valid⟩ => nomatch made.symm.trans valid
  | page none | pageSize _ none | sorts none | filters none => isTrue trivial
  | misfit .. | unknown _ => isFalse id

/-- What a change that can be put on a query does. -/
def update : Change → Update
  | page n => { page := n }
  | pageSize _ n => { pageSize := n }
  | sorts specs => { sorts := specs.bind fun specs => (specs.mapM SortSpec.toClause).toOption }
  | filters specs =>
    { filters := specs.bind fun specs => (specs.mapM FilterSpec.toClause).toOption }
  | misfit .. | unknown _ => {}

theorem positive_eq_ok_iff {key : Text} {n m : Number} :
    positive key n = .ok m ↔ n.less 1 = false ∧ n = m := by
  unfold positive
  cases n.less 1 <;> simp

/-- A change that can be put on a query does its update. -/
theorem apply_eq_ok_iff {c : Change} {q r : Query} :
    c.apply q = .ok r ↔ c.Allowed ∧ c.update.on q = r := by
  cases c with
  | page n =>
    cases n with
    | none => simp [apply, Allowed, update, Update.on]
    | some n =>
      simp [apply, Allowed, update, Update.on, map_eq_ok_iff, positive_eq_ok_iff, and_assoc]
  | pageSize underscored n =>
    cases n with
    | none => simp [apply, Allowed, update, Update.on]
    | some n =>
      simp [apply, Allowed, update, Update.on, map_eq_ok_iff, positive_eq_ok_iff, and_assoc]
  | sorts specs =>
    cases specs with
    | none => simp [apply, Allowed, update, Update.on]
    | some specs =>
      simp only [apply, Allowed, update, Update.on, Option.bind_some]
      cases specs.mapM SortSpec.toClause <;> simp [Except.map, Except.toOption]
  | filters specs =>
    cases specs with
    | none => simp [apply, Allowed, update, Update.on]
    | some specs =>
      simp only [apply, Allowed, update, Update.on, Option.bind_some]
      cases specs.mapM FilterSpec.toClause <;> simp [Except.map, Except.toOption]
  | misfit key kind => simp [apply, Allowed]
  | unknown key => simp [apply, Allowed]

/-- The key of a change that can be put on a query tells what kind of change it is. -/
inductive Keyed : Change → Text → Prop where
  | page (n : Option Number) : Keyed (.page n) "page"
  | pageSize (n : Option Number) : Keyed (.pageSize false n) "pageSize"
  | underscored (n : Option Number) : Keyed (.pageSize true n) "page_size"
  | sorts (specs : Option (List SortSpec)) : Keyed (.sorts specs) "sorts"
  | filters (specs : Option (List FilterSpec)) : Keyed (.filters specs) "filters"

theorem Allowed.keyed {c : Change} (allowed : c.Allowed) : c.Keyed c.key := by
  cases c with
  | page n => exact .page n
  | pageSize underscored n =>
    cases underscored with
    | false => exact .pageSize n
    | true => exact .underscored n
  | sorts specs => exact .sorts specs
  | filters specs => exact .filters specs
  | misfit key kind => exact absurd allowed id
  | unknown key => exact absurd allowed id

/-- The names of a merge's own parts are no keys. -/
theorem Allowed.key_not_mem {c : Change} (allowed : c.Allowed) : c.key ∉ Query.mergeNames := by
  have keyed := allowed.keyed
  generalize c.key = key at keyed
  cases keyed <;> decide

/-- The key of the page size in one of its spellings. -/
def sizeKey (underscored : Bool) : Text :=
  (pageSize underscored none).key

/-- A part of a query of which only the change under one key says anything, unless it is null. -/
structure StandsAt {α : Type} (part : Update → Option α) (key : Text) (c : Change) : Prop where
  sole : c.key ≠ key → part c.update = none
  null : c.key = key → (part c.update = none ↔ c.IsNull)

section
variable {c : Change} (allowed : c.Allowed)
include allowed

theorem Allowed.standsAt_page : c.StandsAt Update.page "page" := by
  have keyed := allowed.keyed
  constructor
  · intro other
    cases keyed with
    | page n => exact absurd rfl other
    | _ => rfl
  · intro same
    rw [same] at keyed
    cases keyed with
    | page n => cases n <;> simp [update, IsNull]

theorem Allowed.standsAt_sorts : c.StandsAt Update.sorts "sorts" := by
  have keyed := allowed.keyed
  constructor
  · intro other
    cases keyed with
    | sorts specs => exact absurd rfl other
    | _ => rfl
  · intro same
    rw [same] at keyed
    cases keyed with
    | sorts specs =>
      cases specs with
      | none => simp [update, IsNull]
      | some specs =>
        obtain ⟨clauses, valid⟩ := allowed
        simp [update, IsNull, valid, Except.toOption]

theorem Allowed.standsAt_filters : c.StandsAt Update.filters "filters" := by
  have keyed := allowed.keyed
  constructor
  · intro other
    cases keyed with
    | filters specs => exact absurd rfl other
    | _ => rfl
  · intro same
    rw [same] at keyed
    cases keyed with
    | filters specs =>
      cases specs with
      | none => simp [update, IsNull]
      | some specs =>
        obtain ⟨clauses, valid⟩ := allowed
        simp [update, IsNull, valid, Except.toOption]

/-- The page size stands under one key where the other spelling is not used. -/
theorem Allowed.standsAt_pageSize {underscored : Bool} (spelled : c.key ≠ sizeKey !underscored) :
    c.StandsAt Update.pageSize (sizeKey underscored) := by
  have keyed := allowed.keyed
  constructor
  · intro other
    cases keyed with
    | pageSize n => cases underscored <;> contradiction
    | underscored n => cases underscored <;> contradiction
    | _ => rfl
  · intro same
    rw [same] at keyed
    cases underscored with
    | false =>
      cases keyed with
      | pageSize n => cases n <;> simp [update, IsNull]
    | true =>
      cases keyed with
      | underscored n => cases n <;> simp [update, IsNull]

end

end Change

/-! ## Patches -/

namespace Patch

/-- The change under a key. -/
def changeAt (p : Patch) (key : Text) : Option Change :=
  p.find? fun c => c.key = key

/-- The keys of a patch in its order. -/
def keys (p : Patch) : List Text :=
  p.map Change.key

@[simp]
theorem keys_cons (c : Change) (p : Patch) : keys (c :: p) = c.key :: p.keys :=
  rfl

/-- No two changes of a patch have the same key. -/
def Distinct (p : Patch) : Prop :=
  p.keys.Nodup

/-- A key comes before another in a patch. -/
def Before (p : Patch) (key other : Text) : Prop :=
  [key, other].Sublist p.keys

/-- The last thing that the changes of a patch say of a part. -/
def last {α : Type} (part : Update → Option α) : Patch → Option α
  | [] => none
  | c :: rest => (last part rest).or (part c.update)

/-- What a patch that can be put on a query does. -/
def update (p : Patch) : Update where
  page := p.last Update.page
  pageSize := p.last Update.pageSize
  sorts := p.last Update.sorts
  filters := p.last Update.filters

instance (p : Patch) : Decidable p.Distinct :=
  inferInstanceAs (Decidable (List.Nodup _))

section
variable {p later : Patch} {c d : Change} {key : Text}

theorem update_cons (c : Change) (p : Patch) : update (c :: p) = p.update.after c.update :=
  rfl

theorem mem_put (h : d ∈ p.put c) : d = c ∨ d ∈ p := by
  induction p with
  | nil => exact .inl (List.mem_singleton.1 h)
  | cons first rest ih =>
    unfold put at h
    split at h
    · next same =>
      rcases List.mem_cons.1 h with rfl | h
      · exact .inl rfl
      · exact .inr (List.mem_cons_of_mem _ h)
    · next apart =>
      rcases List.mem_cons.1 h with rfl | h
      · exact .inr List.mem_cons_self
      · exact (ih h).imp id (List.mem_cons_of_mem _)

theorem mem_overlay (h : d ∈ p.overlay later) : d ∈ p ∨ d ∈ later := by
  unfold overlay at h
  induction later generalizing p with
  | nil => exact .inl h
  | cons c rest ih =>
    rcases ih h with put | later
    · rcases mem_put put with rfl | earlier
      · exact .inr List.mem_cons_self
      · exact .inl earlier
    · exact .inr (List.mem_cons_of_mem _ later)

theorem changeAt_cons (c : Change) (p : Patch) (key : Text) :
    changeAt (c :: p) key = if c.key = key then some c else p.changeAt key := by
  unfold changeAt
  rw [List.find?_cons]
  by_cases same : c.key = key <;> simp [same]

theorem changeAt_put (c : Change) (p : Patch) (key : Text) :
    (p.put c).changeAt key = if c.key = key then some c else p.changeAt key := by
  induction p with
  | nil => exact changeAt_cons c [] key
  | cons first rest ih =>
    unfold put
    split
    · next same =>
      rw [changeAt_cons, changeAt_cons, same]
      split <;> rfl
    · next apart =>
      rw [changeAt_cons, changeAt_cons, ih]
      by_cases h : c.key = key
      · have first_apart : ¬ first.key = key := fun same => apart (same.trans h.symm)
        rw [if_pos h, if_pos h, if_neg first_apart]
      · rw [if_neg h, if_neg h]

theorem changeAt_eq_none (absent : key ∉ p.keys) : p.changeAt key = none := by
  rw [changeAt, List.find?_eq_none]
  intro c hc same
  exact absent (List.mem_map.2 ⟨c, hc, of_decide_eq_true same⟩)

/-- The patch that results when one is put over another has the later change under a key. -/
theorem changeAt_overlay (distinct : later.Distinct) (key : Text) :
    (p.overlay later).changeAt key = (later.changeAt key).or (p.changeAt key) := by
  unfold overlay
  induction later generalizing p with
  | nil => rfl
  | cons c rest ih =>
    obtain ⟨fresh, others⟩ := List.nodup_cons.1 distinct
    rw [List.foldl_cons, ih others, changeAt_put, changeAt_cons]
    by_cases same : c.key = key
    · rw [if_pos same, if_pos same, changeAt_eq_none (same ▸ fresh)]
      rfl
    · rw [if_neg same, if_neg same]

theorem distinct_put (distinct : p.Distinct) (c : Change) : (p.put c).Distinct := by
  induction p with
  | nil => exact List.nodup_cons.2 ⟨List.not_mem_nil, List.nodup_nil⟩
  | cons first rest ih =>
    obtain ⟨fresh, others⟩ := List.nodup_cons.1 distinct
    unfold put
    split
    · next same => exact List.nodup_cons.2 ⟨same ▸ fresh, others⟩
    · next apart =>
      refine List.nodup_cons.2 ⟨?_, ih others⟩
      intro again
      obtain ⟨d, hd, same⟩ := List.mem_map.1 again
      rcases mem_put hd with rfl | hd
      · exact apart same.symm
      · exact fresh (List.mem_map.2 ⟨d, hd, same⟩)

theorem distinct_overlay (distinct : p.Distinct) (later : Patch) : (p.overlay later).Distinct := by
  unfold overlay
  induction later generalizing p with
  | nil => exact distinct
  | cons c rest ih => exact ih (distinct_put distinct c)

theorem last_eq_none {α : Type} {part : Update → Option α}
    (nothing : ∀ c ∈ p, part c.update = none) : p.last part = none := by
  induction p with
  | nil => rfl
  | cons c rest ih =>
    rw [last, ih fun d hd => nothing d (List.mem_cons_of_mem _ hd), nothing c List.mem_cons_self]
    rfl

/-- Of a part under one key a patch says what the change there says. -/
theorem last_eq_changeAt {α : Type} {part : Update → Option α} (distinct : p.Distinct)
    (stands : ∀ c ∈ p, c.StandsAt part key) :
    p.last part = (p.changeAt key).bind fun c => part c.update := by
  induction p with
  | nil => rfl
  | cons c rest ih =>
    obtain ⟨fresh, others⟩ := List.nodup_cons.1 distinct
    rw [last, changeAt_cons]
    by_cases same : c.key = key
    · have none : last part rest = none := by
        apply last_eq_none
        intro d hd
        refine (stands d (List.mem_cons_of_mem _ hd)).sole fun also => fresh ?_
        exact List.mem_map.2 ⟨d, hd, also.trans same.symm⟩
      rw [if_pos same, none]
      rfl
    · rw [if_neg same, (stands c List.mem_cons_self).sole same, Option.or_none]
      exact ih others fun d hd => stands d (List.mem_cons_of_mem _ hd)

/-- A null of changes stands under a key where a patch has something. -/
def Erases (changes p : Patch) (key : Text) : Prop :=
  (∃ c, changes.changeAt key = some c ∧ c.IsNull) ∧ ∃ d, p.changeAt key = some d ∧ ¬ d.IsNull

/-- Of a part under one key the patch that results says what the later patch says or else the
earlier, unless a null of the later erases that. -/
theorem last_overlay_iff {α : Type} {part : Update → Option α} (distinct : p.Distinct)
    (laterDistinct : later.Distinct) (stands : ∀ c, c ∈ p ∨ c ∈ later → c.StandsAt part key) :
    (p.overlay later).last part = (later.last part).or (p.last part) ↔ ¬ later.Erases p key := by
  rw [last_eq_changeAt (distinct_overlay distinct later) fun c hc => stands c (mem_overlay hc),
    last_eq_changeAt laterDistinct fun c hc => stands c (.inr hc),
    last_eq_changeAt distinct fun c hc => stands c (.inl hc), changeAt_overlay laterDistinct]
  have null {q : Patch} (within : ∀ c ∈ q, c ∈ p ∨ c ∈ later) {c : Change}
      (found : q.changeAt key = some c) : part c.update = none ↔ c.IsNull :=
    (stands c (within c (List.mem_of_find?_eq_some found))).null
      (by simpa [changeAt] using List.find?_some found)
  unfold Erases
  cases named : later.changeAt key with
  | none => simp
  | some c =>
    have nullNamed := null (fun _ hc => .inr hc) named
    cases present : p.changeAt key with
    | none => simp
    | some d =>
      have nullPresent := null (fun _ hc => .inl hc) present
      cases effect : part c.update with
      | none => simp [effect, ← nullNamed, ← nullPresent, eq_comm]
      | some x => simp [effect, ← nullNamed]

/-! ### Order -/

theorem keys_put (c : Change) (p : Patch) :
    (p.put c).keys = if c.key ∈ p.keys then p.keys else p.keys ++ [c.key] := by
  induction p with
  | nil => rfl
  | cons first rest ih =>
    rw [put]
    split
    · next same => simp [same]
    · next apart =>
      rw [keys_cons, keys_cons, ih]
      have other : c.key ≠ first.key := fun same => apart same.symm
      by_cases present : c.key ∈ keys rest <;> simp [present, other]

/-- A patch put over another adds its new keys at the end. -/
theorem keys_overlay (laterDistinct : later.Distinct) :
    (p.overlay later).keys = p.keys ++ later.keys.filter (· ∉ p.keys) := by
  unfold overlay
  induction later generalizing p with
  | nil => exact (List.append_nil _).symm
  | cons c rest ih =>
    obtain ⟨fresh, others⟩ := List.nodup_cons.1 laterDistinct
    rw [List.foldl_cons, ih others, keys_put, keys_cons]
    by_cases present : c.key ∈ p.keys
    · simp [present]
    · have same : (keys rest).filter (· ∉ p.keys ++ [c.key]) = (keys rest).filter (· ∉ p.keys) := by
        apply List.filter_congr
        intro key hkey
        have apart : key ≠ c.key := fun same => fresh (same ▸ hkey)
        simp [apart]
      rw [if_neg present, same, List.append_assoc]
      simp [present]

section
variable {other : Text}

theorem Before.mem_left (h : p.Before key other) : key ∈ p.keys :=
  h.subset List.mem_cons_self

theorem Before.mem_right (h : p.Before key other) : other ∈ p.keys :=
  h.subset (List.mem_cons_of_mem _ List.mem_cons_self)

theorem Before.asymm (distinct : p.Distinct) (h : p.Before key other) : ¬ p.Before other key := by
  unfold Before Distinct at *
  generalize p.keys = keys at *
  induction keys with
  | nil => nomatch h
  | cons first rest ih =>
    obtain ⟨fresh, others⟩ := List.nodup_cons.1 distinct
    intro back
    rw [List.cons_sublist_cons'] at h back
    rcases h with h | ⟨rfl, h⟩
    · rcases back with back | ⟨rfl, -⟩
      · exact ih others h back
      · exact fresh (h.subset (List.mem_cons_of_mem _ List.mem_cons_self))
    · rcases back with back | ⟨rfl, -⟩
      · exact fresh (back.subset (List.mem_cons_of_mem _ List.mem_cons_self))
      · exact fresh (h.subset List.mem_cons_self)

theorem before_or_before (apart : key ≠ other) (h : key ∈ p.keys) (h' : other ∈ p.keys) :
    p.Before key other ∨ p.Before other key := by
  obtain ⟨front, back, split⟩ := List.append_of_mem h
  unfold Before
  rw [split] at h' ⊢
  rcases List.mem_append.1 h' with earlier | later
  · right
    exact (List.singleton_sublist.2 earlier).append (List.singleton_sublist.2 List.mem_cons_self)
  · left
    have later := (List.mem_cons.1 later).resolve_left apart.symm
    exact ((List.singleton_sublist.2 later).cons_cons key).trans (List.sublist_append_right ..)

/-- In the patch that results a key comes before another if it does so in the earlier patch, if only
it is there, or if neither is and it does so in the later. -/
theorem before_overlay_iff (laterDistinct : later.Distinct) :
    (p.overlay later).Before key other ↔ p.Before key other ∨
      (key ∈ p.keys ∧ other ∈ later.keys ∧ other ∉ p.keys) ∨
      (later.Before key other ∧ key ∉ p.keys ∧ other ∉ p.keys) := by
  unfold Before
  rw [keys_overlay laterDistinct, List.sublist_append_iff]
  constructor
  · rintro ⟨front, back, split, within, added⟩
    match front, split with
    | [], split =>
      obtain rfl : [key, other] = back := split
      have new : ∀ k ∈ [key, other], k ∉ p.keys := fun k hk =>
        of_decide_eq_true (List.mem_filter.1 (added.subset hk)).2
      exact .inr (.inr ⟨added.trans List.filter_sublist, new key (by simp), new other (by simp)⟩)
    | [_], rfl =>
      have late := List.mem_filter.1 (List.singleton_sublist.1 added)
      exact .inr (.inl ⟨List.singleton_sublist.1 within, late.1, of_decide_eq_true late.2⟩)
    | [_, _], rfl => exact .inl within
  · rintro (within | ⟨first, second, new⟩ | ⟨order, new, new'⟩)
    · exact ⟨[key, other], [], rfl, within, List.nil_sublist _⟩
    · refine ⟨[key], [other], rfl, List.singleton_sublist.2 first, List.singleton_sublist.2 ?_⟩
      exact List.mem_filter.2 ⟨second, decide_eq_true new⟩
    · refine ⟨[], [key, other], rfl, List.nil_sublist _, ?_⟩
      simpa [new, new'] using order.filter fun k => decide (k ∉ p.keys)

end

end

end Patch

end Listing
