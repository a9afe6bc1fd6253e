import Listing.Proofs.Overlay

/-!
# Patches

Named changes act as a later patch would unless a null of theirs erases what the patch says, or the
page size they set stands before another one.

* **the page size**: it has two keys, and a patch gives a query the size that comes last
  (`last_pageSize_eq_some_iff`); where one patch is put over another, a null may clear the size or
  one in the other spelling overtake it (`pageSize_overlay_iff`);
* **updates**: a patch put over another does what it does after it exactly if it acts as a later one
  (`update_overlay_iff`);
* **the law**: named changes give the query that a later patch gives, whatever the query, exactly if
  they act as one (`mergeNamed_later_iff`).
-/

namespace Listing

/-! ## Patches -/

namespace Patch

section
variable {p later : Patch}

/-! ### The page size -/

/-- The page size under one of its spellings, where that is not null. -/
def sizeAt (p : Patch) (underscored : Bool) : Option Number :=
  (p.changeAt (Change.sizeKey underscored)).bind fun c => c.update.pageSize

/-- A patch sets a page size under a spelling: it has the size there, and none comes after it. -/
structure SetsSize (p : Patch) (underscored : Bool) (n : Number) : Prop where
  size : p.sizeAt underscored = some n
  last : p.Before (Change.sizeKey underscored) (Change.sizeKey !underscored) →
    p.sizeAt (!underscored) = none

/-- The page size under a spelling once changes stand in the place of what a patch has there. -/
def sizeOver (changes p : Patch) (underscored : Bool) : Option Number :=
  ((changes.changeAt (Change.sizeKey underscored)).or
    (p.changeAt (Change.sizeKey underscored))).bind fun c => c.update.pageSize

/-- A null of changes that set no page size stands under the spelling in which a patch sets one, and
the other spelling does not have the same size. -/
def Clears (changes p : Patch) : Prop :=
  ∃ underscored n, (∀ spelling, changes.sizeAt spelling = none) ∧ p.SetsSize underscored n ∧
    Change.sizeKey underscored ∈ changes.keys ∧ changes.sizeOver p (!underscored) ≠ some n

/-- The page size that changes set takes a place in a patch that another one comes after. -/
def Overtaken (changes p : Patch) : Prop :=
  ∃ underscored n m, changes.SetsSize underscored n ∧ Change.sizeKey underscored ∈ p.keys ∧
    ¬ p.Before (Change.sizeKey !underscored) (Change.sizeKey underscored) ∧
    changes.sizeOver p (!underscored) = some m ∧ m ≠ n

theorem mem_keys_of_sizeAt {underscored : Bool} {n : Number} (h : p.sizeAt underscored = some n) :
    Change.sizeKey underscored ∈ p.keys := by
  refine Decidable.byContradiction fun absent => ?_
  rw [sizeAt, changeAt_eq_none absent] at h
  cases h

theorem sizeAt_eq_none {underscored : Bool} (absent : Change.sizeKey underscored ∉ p.keys) :
    p.sizeAt underscored = none :=
  Option.eq_none_iff_forall_ne_some.2 fun _ h => absent (mem_keys_of_sizeAt h)

theorem sizeAt_cons (c : Change) (p : Patch) (underscored : Bool) :
    sizeAt (c :: p) underscored =
      if c.key = Change.sizeKey underscored then c.update.pageSize else p.sizeAt underscored := by
  unfold sizeAt
  rw [changeAt_cons]
  split <;> rfl

theorem sizeOver_of_mem {underscored : Bool} (h : Change.sizeKey underscored ∈ later.keys) :
    later.sizeOver p underscored = later.sizeAt underscored := by
  obtain ⟨c, hc, same⟩ := List.mem_map.1 h
  unfold sizeOver sizeAt
  cases found : later.changeAt (Change.sizeKey underscored) with
  | none => exact absurd (List.find?_eq_none.1 found c hc) (by simp [same])
  | some c => rfl

theorem sizeOver_of_not_mem {underscored : Bool} (h : Change.sizeKey underscored ∉ later.keys) :
    later.sizeOver p underscored = p.sizeAt underscored := by
  rw [sizeOver, changeAt_eq_none h, Option.none_or, sizeAt]

theorem sizeAt_overlay (laterDistinct : later.Distinct) (underscored : Bool) :
    (p.overlay later).sizeAt underscored = later.sizeOver p underscored := by
  rw [sizeAt, changeAt_overlay laterDistinct, sizeOver]

theorem sizeKey_ne (underscored : Bool) :
    Change.sizeKey underscored ≠ Change.sizeKey !underscored := by
  cases underscored <;> decide

/-- A spelling that does not come before the other has the page size that is used, if it has one. -/
theorem last_pageSize (distinct : p.Distinct) (allowed : ∀ c ∈ p, c.Allowed) {underscored : Bool}
    (order : ¬ p.Before (Change.sizeKey underscored) (Change.sizeKey !underscored)) :
    p.last Update.pageSize = (p.sizeAt underscored).or (p.sizeAt !underscored) := by
  -- On the patch: since its keys are distinct, only its first change can have the key it has.
  induction p with
  | nil => rfl
  | cons c rest ih =>
    obtain ⟨fresh, others⟩ := List.nodup_cons.1 distinct
    have restOrder := fun h : Before rest _ _ => order (List.Sublist.cons c.key h)
    rw [last, ih others (fun d hd => allowed d (List.mem_cons_of_mem _ hd)) restOrder, sizeAt_cons,
      sizeAt_cons]
    by_cases same : c.key = Change.sizeKey underscored
    · -- The other spelling does not follow, or this one would come before it.
      have alone : Change.sizeKey (!underscored) ∉ keys rest := by
        intro h
        apply order
        unfold Before keys
        rw [List.map_cons, same]
        exact (List.singleton_sublist.2 h).cons_cons _
      rw [if_pos same, if_neg (same ▸ sizeKey_ne underscored), sizeAt_eq_none (same ▸ fresh),
        sizeAt_eq_none alone]
      simp
    · rw [if_neg same]
      by_cases other : c.key = Change.sizeKey !underscored
      · have alone : Change.sizeKey (!underscored) ∉ keys rest := other ▸ fresh
        rw [if_pos other, sizeAt_eq_none alone]
        simp
      · have stands := (allowed c List.mem_cons_self).standsAt_pageSize other
        rw [if_neg other, stands.sole same, Option.or_none]

theorem exists_not_before (distinct : p.Distinct) :
    ∃ underscored, ¬ p.Before (Change.sizeKey underscored) (Change.sizeKey !underscored) := by
  by_cases order : p.Before (Change.sizeKey false) (Change.sizeKey true)
  · exact ⟨true, order.asymm distinct⟩
  · exact ⟨false, order⟩

section
variable (distinct : p.Distinct) (allowed : ∀ c ∈ p, c.Allowed)
include distinct allowed

theorem last_pageSize_eq_none_iff :
    p.last Update.pageSize = none ↔ ∀ underscored, p.sizeAt underscored = none := by
  obtain ⟨u, order⟩ := exists_not_before distinct
  rw [last_pageSize distinct allowed order, Option.or_eq_none_iff]
  cases u <;> simp [and_comm]

theorem last_pageSize_of_sizeAt_eq_none {underscored : Bool} (size : p.sizeAt underscored = none) :
    p.last Update.pageSize = p.sizeAt !underscored := by
  obtain ⟨u, order⟩ := exists_not_before distinct
  rw [last_pageSize distinct allowed order]
  by_cases same : u = underscored
  · rw [same, size, Option.none_or]
  · obtain rfl : u = !underscored := Bool.eq_not_of_ne same
    rw [Bool.not_not, size, Option.or_none]

/-- The page size under a spelling is the last one unless another one comes after it. -/
theorem last_pageSize_of_sizeAt {underscored : Bool} {n : Number}
    (size : p.sizeAt underscored = some n) :
    p.last Update.pageSize = some n ↔
      ∀ m, p.Before (Change.sizeKey underscored) (Change.sizeKey !underscored) →
        p.sizeAt (!underscored) = some m → m = n := by
  by_cases order : p.Before (Change.sizeKey underscored) (Change.sizeKey !underscored)
  · have back : ¬ p.Before (Change.sizeKey !underscored) (Change.sizeKey !!underscored) := by
      rw [Bool.not_not]
      exact order.asymm distinct
    rw [last_pageSize distinct allowed back, Bool.not_not, size]
    cases p.sizeAt !underscored <;> simp [order]
  · rw [last_pageSize distinct allowed order, size]
    simp [order]

/-- The page size that a patch gives a query is the one it sets under one of the spellings. -/
theorem last_pageSize_eq_some_iff {n : Number} :
    p.last Update.pageSize = some n ↔ ∃ underscored, p.SetsSize underscored n := by
  constructor
  · intro h
    obtain ⟨u, order⟩ := exists_not_before distinct
    rw [last_pageSize distinct allowed order] at h
    rcases Option.or_eq_some_iff.1 h with size | ⟨none, size⟩
    · exact ⟨u, size, fun before => absurd before order⟩
    · exact ⟨!u, size, fun _ => by rwa [Bool.not_not]⟩
  · rintro ⟨u, size, alone⟩
    rw [last_pageSize_of_sizeAt distinct allowed size]
    intro m order other
    rw [alone order] at other
    cases other

end

/-- A patch sets one page size, in one spelling. -/
theorem SetsSize.unique {u v : Bool} {n m : Number} (h : p.SetsSize u n) (h' : p.SetsSize v m) :
    u = v ∧ n = m := by
  by_cases same : u = v
  · subst same
    exact ⟨rfl, Option.some.inj (h.size.symm.trans h'.size)⟩
  · obtain rfl : v = !u := Bool.eq_not_of_ne (Ne.symm same)
    exfalso
    rcases before_or_before (sizeKey_ne u) (mem_keys_of_sizeAt h.size) (mem_keys_of_sizeAt h'.size)
      with order | order
    · cases (h.last order).symm.trans h'.size
    · have none := h'.last (by rwa [Bool.not_not])
      rw [Bool.not_not, h.size] at none
      cases none

section
variable (distinct : p.Distinct) (laterDistinct : later.Distinct)
  (allowed : ∀ c, c ∈ p ∨ c ∈ later → c.Allowed)
include distinct laterDistinct allowed

/-- A page size of the later patch is the last one exactly if no other overtakes it. -/
theorem last_overlay_of_setsSize {u : Bool} {n : Number} (sets : later.SetsSize u n) :
    (p.overlay later).last Update.pageSize = some n ↔ ¬ later.Overtaken p := by
  have size : (p.overlay later).sizeAt u = some n := by
    rw [sizeAt_overlay laterDistinct, sizeOver_of_mem (mem_keys_of_sizeAt sets.size), sets.size]
  rw [last_pageSize_of_sizeAt (distinct_overlay distinct later)
    (fun c hc => allowed c (mem_overlay hc)) size, sizeAt_overlay laterDistinct,
    before_overlay_iff laterDistinct]
  constructor
  · rintro one ⟨v, n', m, sets', present, order, other, apart⟩
    obtain ⟨rfl, rfl⟩ := sets.unique sets'
    refine apart (one m ?_ other)
    by_cases also : Change.sizeKey (!u) ∈ p.keys
    · exact .inl ((before_or_before (sizeKey_ne u) present also).resolve_right order)
    · refine .inr (.inl ⟨present, ?_, also⟩)
      refine Decidable.byContradiction fun absent => ?_
      rw [sizeOver_of_not_mem absent, sizeAt_eq_none also] at other
      cases other
  · intro free m order other
    refine Decidable.byContradiction fun apart => ?_
    rcases order with order | ⟨present, -, absent⟩ | ⟨order, -, absent⟩
    · exact free ⟨u, n, m, sets, order.mem_left, order.asymm distinct, other, apart⟩
    · exact free ⟨u, n, m, sets, present, fun order => absent order.mem_left, other, apart⟩
    · -- Both keys are new, and in the later patch no size comes after the one it sets.
      rw [sizeOver_of_mem order.mem_right, sets.last order] at other
      cases other

/-- A later patch that sets no page size but has the key of one leaves the other spelling. -/
theorem last_overlay_of_hidden (silent : ∀ v, later.sizeAt v = none) {u : Bool}
    (hidden : Change.sizeKey u ∈ later.keys) :
    (p.overlay later).last Update.pageSize = later.sizeOver p !u := by
  have size : (p.overlay later).sizeAt u = none := by
    rw [sizeAt_overlay laterDistinct, sizeOver_of_mem hidden, silent u]
  rw [last_pageSize_of_sizeAt_eq_none (distinct_overlay distinct later)
    (fun c hc => allowed c (mem_overlay hc)) size, sizeAt_overlay laterDistinct]

/-- A later patch that sets no page size and does not have the key of the earlier one keeps it. -/
theorem last_overlay_of_kept (silent : ∀ v, later.sizeAt v = none) {u : Bool} {n : Number}
    (sets : p.SetsSize u n) (kept : Change.sizeKey u ∉ later.keys) :
    (p.overlay later).last Update.pageSize = some n := by
  have size : (p.overlay later).sizeAt u = some n := by
    rw [sizeAt_overlay laterDistinct, sizeOver_of_not_mem kept, sets.size]
  rw [last_pageSize_of_sizeAt (distinct_overlay distinct later)
    (fun c hc => allowed c (mem_overlay hc)) size, sizeAt_overlay laterDistinct,
    before_overlay_iff laterDistinct]
  intro m order other
  exfalso
  by_cases also : Change.sizeKey (!u) ∈ later.keys
  · rw [sizeOver_of_mem also, silent] at other
    cases other
  · rw [sizeOver_of_not_mem also] at other
    rcases order with order | ⟨-, second, -⟩ | ⟨order, -⟩
    · cases (sets.last order).symm.trans other
    · exact also second
    · exact also order.mem_right

/-- A page size of the earlier patch is the last one, where the later sets none, exactly if no null
clears it. -/
theorem last_overlay_of_silent (silent : ∀ v, later.sizeAt v = none) {u : Bool} {n : Number}
    (sets : p.SetsSize u n) :
    (p.overlay later).last Update.pageSize = some n ↔ ¬ later.Clears p := by
  by_cases hidden : Change.sizeKey u ∈ later.keys
  · rw [last_overlay_of_hidden distinct laterDistinct allowed silent hidden]
    constructor
    · rintro same ⟨v, n', -, sets', -, lost⟩
      obtain ⟨rfl, rfl⟩ := sets.unique sets'
      exact lost same
    · intro kept
      exact Decidable.byContradiction fun lost => kept ⟨u, n, silent, sets, hidden, lost⟩
  · have kept : ¬ later.Clears p := by
      rintro ⟨v, n', -, sets', hidden', -⟩
      obtain ⟨rfl, -⟩ := sets.unique sets'
      exact hidden hidden'
    exact iff_of_true (last_overlay_of_kept distinct laterDistinct allowed silent sets hidden) kept

/-- The page size of a patch put over another is its own, or the other's if it sets none, exactly if
none is cleared and none overtaken. -/
theorem pageSize_overlay_iff :
    (p.overlay later).last Update.pageSize =
        (later.last Update.pageSize).or (p.last Update.pageSize) ↔
      ¬ later.Clears p ∧ ¬ later.Overtaken p := by
  have earlier : ∀ c ∈ p, c.Allowed := fun c hc => allowed c (.inl hc)
  have named : ∀ c ∈ later, c.Allowed := fun c hc => allowed c (.inr hc)
  cases set : later.last Update.pageSize with
  | some n =>
    obtain ⟨u, sets⟩ := (last_pageSize_eq_some_iff laterDistinct named).1 set
    have kept : ¬ later.Clears p := by
      rintro ⟨-, -, silent, -⟩
      cases sets.size.symm.trans (silent u)
    rw [Option.some_or, last_overlay_of_setsSize distinct laterDistinct allowed sets]
    exact (and_iff_right kept).symm
  | none =>
    have silent := (last_pageSize_eq_none_iff laterDistinct named).1 set
    have free : ¬ later.Overtaken p := by
      rintro ⟨u, n, -, sets, -⟩
      cases sets.size.symm.trans (silent u)
    rw [Option.none_or, and_iff_left free]
    cases was : p.last Update.pageSize with
    | some n =>
      obtain ⟨u, sets⟩ := (last_pageSize_eq_some_iff distinct earlier).1 was
      exact last_overlay_of_silent distinct laterDistinct allowed silent sets
    | none =>
      have silent' := (last_pageSize_eq_none_iff distinct earlier).1 was
      have kept : ¬ later.Clears p := by
        rintro ⟨u, n, -, sets, -⟩
        cases sets.size.symm.trans (silent' u)
      refine iff_of_true ?_ kept
      rw [last_pageSize_eq_none_iff (distinct_overlay distinct later) fun c hc =>
        allowed c (mem_overlay hc)]
      intro u
      rw [sizeAt_overlay laterDistinct]
      by_cases present : Change.sizeKey u ∈ later.keys
      · rw [sizeOver_of_mem present, silent u]
      · rw [sizeOver_of_not_mem present, silent' u]

end

/-! ### Changes as a later patch -/

/-- Changes that act on a patch as a later one would: no null of theirs erases anything, and no
other page size comes after theirs. -/
structure ActsLater (changes p : Patch) : Prop where
  page : ¬ changes.Erases p "page"
  sorts : ¬ changes.Erases p "sorts"
  filters : ¬ changes.Erases p "filters"
  cleared : ¬ changes.Clears p
  overtaken : ¬ changes.Overtaken p

/-- A patch put over another does what it does after the other exactly if it acts as a later one. -/
theorem update_overlay_iff (distinct : p.Distinct) (laterDistinct : later.Distinct)
    (allowed : ∀ c, c ∈ p ∨ c ∈ later → c.Allowed) :
    (p.overlay later).update = later.update.after p.update ↔ later.ActsLater p := by
  have page := last_overlay_iff distinct laterDistinct fun c hc => (allowed c hc).standsAt_page
  have sorts := last_overlay_iff distinct laterDistinct fun c hc => (allowed c hc).standsAt_sorts
  have filters := last_overlay_iff distinct laterDistinct fun c hc =>
    (allowed c hc).standsAt_filters
  have pageSize := pageSize_overlay_iff distinct laterDistinct allowed
  constructor
  · intro same
    obtain ⟨cleared, overtaken⟩ := pageSize.1 (congrArg Update.pageSize same)
    exact ⟨page.1 (congrArg Update.page same), sorts.1 (congrArg Update.sorts same),
      filters.1 (congrArg Update.filters same), cleared, overtaken⟩
  · intro acts
    unfold update Update.after
    rw [Update.mk.injEq]
    exact ⟨page.2 acts.page, pageSize.2 ⟨acts.cleared, acts.overtaken⟩, sorts.2 acts.sorts,
      filters.2 acts.filters⟩

/-- Where the page size has one spelling, changes act as a later patch exactly if no null of theirs
erases anything. -/
theorem actsLater_iff_of_spelled {underscored : Bool} (distinct : p.Distinct)
    (laterDistinct : later.Distinct) (allowed : ∀ c, c ∈ p ∨ c ∈ later → c.Allowed)
    (spelled : ∀ c, c ∈ p ∨ c ∈ later → c.key ≠ Change.sizeKey !underscored) :
    later.ActsLater p ↔ ¬ later.Erases p "page" ∧ ¬ later.Erases p "sorts" ∧
      ¬ later.Erases p "filters" ∧ ¬ later.Erases p (Change.sizeKey underscored) := by
  have spelling := last_overlay_iff distinct laterDistinct fun c hc =>
    (allowed c hc).standsAt_pageSize (spelled c hc)
  rw [pageSize_overlay_iff distinct laterDistinct allowed] at spelling
  constructor
  · intro acts
    exact ⟨acts.page, acts.sorts, acts.filters, spelling.1 ⟨acts.cleared, acts.overtaken⟩⟩
  · intro ⟨page, sorts, filters, size⟩
    obtain ⟨cleared, overtaken⟩ := spelling.2 size
    exact ⟨page, sorts, filters, cleared, overtaken⟩

end

end Patch

/-! ## Merges -/

namespace Query

/-- A patch can be put on a query if each of its changes can, and does its update. -/
theorem merge_eq_ok_iff {p : Patch} {q r : Query} :
    q.merge p = .ok r ↔ (∀ c ∈ p, c.Allowed) ∧ p.update.on q = r := by
  unfold merge
  induction p generalizing q with
  | nil =>
    show Except.ok q = Except.ok r ↔ _ ∧ q = r
    simp
  | cons c rest ih =>
    rw [List.foldlM_cons, bind_eq_ok_iff, Patch.update_cons, Update.on_after, List.forall_mem_cons]
    simp [Change.apply_eq_ok_iff, ih, and_assoc]

theorem mergeNamed_of_allowed {changes : Patch} (allowed : ∀ c ∈ changes, c.Allowed) (q : Query)
    (p : Patch) : q.mergeNamed p changes = q.merge (p.overlay changes) := by
  have free : (changes.find? fun c => mergeNames.contains c.key) = none := by
    rw [List.find?_eq_none]
    intro c hc taken
    exact (allowed c hc).key_not_mem (by simpa using taken)
  rw [mergeNamed, free]

/-- Named changes that can be put on a query after a patch give the same query as that, whatever the
query is, exactly if they act as a later patch. -/
theorem mergeNamed_later_iff {p changes : Patch} (distinct : p.Distinct)
    (namedDistinct : changes.Distinct)
    (succeed : ∃ q r s, Query.merge q p = .ok r ∧ Query.merge r changes = .ok s) :
    (∀ q r s, Query.merge q p = .ok r → Query.merge r changes = .ok s →
      Query.mergeNamed q p changes = .ok s) ↔ changes.ActsLater p := by
  obtain ⟨_, _, _, first, second⟩ := succeed
  obtain ⟨allowed, -⟩ := merge_eq_ok_iff.1 first
  obtain ⟨namedAllowed, -⟩ := merge_eq_ok_iff.1 second
  have all : ∀ c, c ∈ p ∨ c ∈ changes → c.Allowed := fun c hc =>
    hc.elim (allowed c) (namedAllowed c)
  rw [← Patch.update_overlay_iff distinct namedDistinct all]
  constructor
  · intro law
    apply Update.eq_of_on_eq
    intro q
    have named := law q _ _ (merge_eq_ok_iff.2 ⟨allowed, rfl⟩)
      (merge_eq_ok_iff.2 ⟨namedAllowed, rfl⟩)
    rw [mergeNamed_of_allowed namedAllowed] at named
    rw [Update.on_after]
    exact (merge_eq_ok_iff.1 named).2
  · intro same q r s first second
    obtain ⟨-, rfl⟩ := merge_eq_ok_iff.1 first
    obtain ⟨-, rfl⟩ := merge_eq_ok_iff.1 second
    rw [mergeNamed_of_allowed namedAllowed, merge_eq_ok_iff, same, Update.on_after]
    exact ⟨fun c hc => all c (Patch.mem_overlay hc), rfl⟩

/-- A page and a page size, with another page size and sorts named: the spelling is another too, and
comes last. -/
theorem mergeNamed_later_renamed :
    let p : Patch := [.page (some 3), .pageSize false (some 10)]
    let changes : Patch :=
      [.pageSize true (some 30), .sorts (some [.token "-price"]), .filters none]
    ∀ q r s, Query.merge q p = .ok r → Query.merge r changes = .ok s →
      Query.mergeNamed q p changes = .ok s := by
  intro p changes
  have distinct : p.Distinct := by decide
  have namedDistinct : changes.Distinct := by decide
  have acts : changes.ActsLater p := by
    constructor
    · rintro ⟨⟨c, found, -⟩, -⟩
      cases found
    · rintro ⟨-, d, found, -⟩
      cases found
    · rintro ⟨-, d, found, -⟩
      cases found
    · rintro ⟨-, -, silent, -⟩
      cases silent true
    · rintro ⟨underscored, n, m, sets, present, -⟩
      cases underscored with
      | false => cases sets.size
      | true => exact absurd present (by decide)
  have allowed : ∀ c ∈ p, c.Allowed := by decide +kernel
  have namedAllowed : ∀ c ∈ changes, c.Allowed := by decide +kernel
  have succeed : ∃ q r s, Query.merge q p = .ok r ∧ Query.merge r changes = .ok s :=
    ⟨{ pageSize := 20 }, _, _, merge_eq_ok_iff.2 ⟨allowed, rfl⟩,
      merge_eq_ok_iff.2 ⟨namedAllowed, rfl⟩⟩
  exact (mergeNamed_later_iff distinct namedDistinct succeed).2 acts

/-- A named null hides the page of the patch, and a named page size comes before another spelling of
the patch's own. -/
theorem mergeNamed_null_fails :
    let q : Query := { pageSize := 20 }
    (q.merge [.page (some 3)] = .ok { q with page := 3 } ∧
      ({ q with page := 3 } : Query).merge [.page none] = .ok { q with page := 3 } ∧
      q.mergeNamed [.page (some 3)] [.page none] = .ok q ∧ ({ q with page := 3 } : Query) ≠ q) ∧
    (q.merge [.pageSize false (some 10), .pageSize true (some 20)] = .ok q ∧
      q.merge [.pageSize false (some 30)] = .ok { q with pageSize := 30 } ∧
      q.mergeNamed [.pageSize false (some 10), .pageSize true (some 20)]
        [.pageSize false (some 30)] = .ok q ∧ ({ q with pageSize := 30 } : Query) ≠ q) := by
  intro q
  have merges (q : Query) {p : Patch} (allowed : ∀ c ∈ p, c.Allowed) :
      q.merge p = .ok (p.update.on q) := merge_eq_ok_iff.2 ⟨allowed, rfl⟩
  refine ⟨⟨merges _ (by decide +kernel), merges _ (by decide +kernel), rfl, ?_⟩,
    ⟨merges _ (by decide +kernel), merges _ (by decide +kernel), ?_, ?_⟩⟩
  · intro same
    have page : Number.whole 3 = .whole 1 := congrArg Query.page same
    cases page
  · exact merges _ (by decide +kernel)
  · intro same
    have pageSize : Number.whole 30 = .whole 20 := congrArg Query.pageSize same
    cases pageSize

end Query

end Listing
