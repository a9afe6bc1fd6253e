import Mathlib
import Listing.Settings

/-!
# Settings between reloads

Every read of a setting is answered from the table that was in force at the first read since the
last reload. `FirstRead` says where in a run that read stands, without looking at the state. The
invariant of a run is `Settled`: it ties the snapshot to that read, the values kept under their
names to the snapshot, and the names noted to the values kept, so that a reload forgets them all
although forgetting one by one does not touch the notes. `settled_step` is one step,
`settled_after` a run, and `run_between_reloads` says what each read answers.
-/

namespace Listing.Settings

/-! ## What a run says of its reads -/

/-- The names of what every object has. -/
def objectNames : List Text :=
  ["__class__", "__delattr__", "__dict__", "__dir__", "__doc__", "__eq__", "__format__", "__ge__",
   "__getattribute__", "__getstate__", "__gt__", "__hash__", "__init__", "__init_subclass__",
   "__le__", "__lt__", "__module__", "__ne__", "__new__", "__reduce__", "__reduce_ex__",
   "__repr__", "__setattr__", "__sizeof__", "__str__", "__subclasshook__", "__weakref__"]

/-- The names of all that a settings object has itself, so that no setting is read by them. -/
def ownNames : List Text :=
  "defaults" :: "user_settings" :: "_user_settings" :: "_cached_attrs" :: "reload" :: "__getattr__"
    :: objectNames

/-- A step that asks for nothing that the settings object has itself and forgets none of it. -/
def Step.Ordinary : Step → Prop
  | .get name | .forget name => name ∉ ownNames
  | _ => True

instance : DecidablePred Step.Ordinary
  | .get name | .forget name => inferInstanceAs (Decidable (name ∉ ownNames))
  | .set _ | .unset | .reload => .isTrue trivial

/-- A step that reads a setting: a name with a default. -/
def Step.Reads (defaults : Members) : Step → Prop
  | .get name => (defaults.get? name).isSome = true
  | _ => False

instance (defaults : Members) : DecidablePred (Step.Reads defaults)
  | .get name => inferInstanceAs (Decidable ((defaults.get? name).isSome = true))
  | .set _ | .unset | .reload | .forget _ => .isFalse id

/-- The table in force outside after a step. -/
def Step.inForce (table : Members) : Step → Members
  | .set next => next
  | .unset => []
  | _ => table

/-- The table in force outside after steps. -/
def inForceAfter (steps : List Step) : Members :=
  steps.foldl Step.inForce []

/-- Steps after which no setting has been read since the last reload, or since the start. -/
def Unread (defaults : Members) (steps : List Step) : Prop :=
  ∃ earlier quiet, steps = earlier ++ quiet ∧ (earlier = [] ∨ earlier.getLast? = some .reload) ∧
    ∀ step ∈ quiet, ¬ step.Reads defaults

/-- The first read of a setting since the last reload is the one that follows `start`. -/
structure FirstRead (defaults : Members) (steps start : List Step) : Prop where
  follows : ∃ read rest, steps = start ++ read :: rest ∧ read.Reads defaults ∧ .reload ∉ rest
  unread : Unread defaults start

theorem not_reads_reload (defaults : Members) : ¬ Step.reload.Reads defaults :=
  id

theorem reads_of_setting {defaults : Members} {name : Text} {default : Value}
    (setting : defaults.get? name = some default) : (Step.get name).Reads defaults := by
  rw [Step.Reads, setting]
  rfl

theorem inForceAfter_concat (steps : List Step) (step : Step) :
    inForceAfter (steps ++ [step]) = step.inForce (inForceAfter steps) := by
  rw [inForceAfter, List.foldl_append]
  rfl

section
variable {defaults : Members} {steps start : List Step} {step : Step}

theorem unread_nil : Unread defaults [] :=
  ⟨[], [], rfl, .inl rfl, fun _ h => absurd h List.not_mem_nil⟩

/-- A reload starts anew, a step that reads nothing changes nothing, and a read ends it. -/
theorem unread_concat_iff : Unread defaults (steps ++ [step]) ↔
    step = .reload ∨ Unread defaults steps ∧ ¬ step.Reads defaults := by
  constructor
  · rintro ⟨earlier, quiet, split, fresh, none⟩
    rcases List.eq_nil_or_concat' quiet with rfl | ⟨before, last, rfl⟩
    · rw [List.append_nil] at split
      rcases fresh with rfl | reloaded
      · exact absurd split (by simp)
      · rw [← split, List.getLast?_concat] at reloaded
        exact .inl (Option.some.inj reloaded)
    · rw [← List.append_assoc] at split
      obtain ⟨rfl, same⟩ := List.append_inj' split rfl
      obtain rfl := List.head_eq_of_cons_eq same
      refine .inr ⟨⟨earlier, before, rfl, fresh, fun s hs => none s ?_⟩, none step ?_⟩
      · exact List.mem_append_left _ hs
      · exact List.mem_append_right _ List.mem_cons_self
  · rintro (rfl | ⟨⟨earlier, quiet, rfl, fresh, none⟩, silent⟩)
    · refine ⟨steps ++ [.reload], [], (List.append_nil _).symm, .inr List.getLast?_concat, ?_⟩
      exact fun _ h => absurd h List.not_mem_nil
    · refine ⟨earlier, quiet ++ [step], List.append_assoc _ _ _, fresh, fun s hs => ?_⟩
      rcases List.mem_append.1 hs with hs | hs
      · exact none s hs
      · rw [List.mem_singleton.1 hs]
        exact silent

/-- The first read stays where it is until a reload, and a read is the first one if there was
none before. -/
theorem firstRead_concat_iff : FirstRead defaults (steps ++ [step]) start ↔
    step ≠ .reload ∧ (FirstRead defaults steps start ∨
      start = steps ∧ Unread defaults steps ∧ step.Reads defaults) := by
  constructor
  · rintro ⟨⟨read, rest, split, reads, noReload⟩, unread⟩
    rcases List.eq_nil_or_concat' rest with rfl | ⟨before, last, rfl⟩
    · obtain ⟨rfl, same⟩ := List.append_inj' split rfl
      obtain rfl := List.head_eq_of_cons_eq same
      refine ⟨?_, .inr ⟨rfl, unread, reads⟩⟩
      rintro rfl
      exact not_reads_reload defaults reads
    · rw [← List.cons_append, ← List.append_assoc] at split
      obtain ⟨rfl, same⟩ := List.append_inj' split rfl
      obtain rfl := List.head_eq_of_cons_eq same
      rw [List.mem_append, not_or, List.mem_singleton] at noReload
      exact ⟨Ne.symm noReload.2, .inl ⟨⟨read, before, rfl, reads, noReload.1⟩, unread⟩⟩
  · rintro ⟨kept, ⟨⟨read, rest, rfl, reads, noReload⟩, unread⟩ | ⟨rfl, unread, reads⟩⟩
    · refine ⟨⟨read, rest ++ [step], List.append_assoc _ _ _, reads, ?_⟩, unread⟩
      rw [List.mem_append, not_or, List.mem_singleton]
      exact ⟨noReload, Ne.symm kept⟩
    · exact ⟨⟨step, [], rfl, reads, List.not_mem_nil⟩, unread⟩

theorem FirstRead.not_unread (first : FirstRead defaults steps start) :
    ¬ Unread defaults steps := by
  -- On the steps from the end, as both notions change there.
  induction steps using List.reverseRecOn with
  | nil =>
    obtain ⟨_, _, split, -⟩ := first.follows
    exact absurd split (by simp)
  | append_singleton steps step ih =>
    rw [unread_concat_iff]
    obtain ⟨kept, before | ⟨rfl, -, reads⟩⟩ := firstRead_concat_iff.1 first
    · exact fun h => h.elim kept fun h => ih before h.1
    · exact fun h => h.elim kept fun h => h.2 reads

/-- Either no setting has been read since the last reload, or there was a first read. -/
theorem unread_or_exists_firstRead (defaults : Members) (steps : List Step) :
    Unread defaults steps ∨ ∃ start, FirstRead defaults steps start := by
  induction steps using List.reverseRecOn with
  | nil => exact .inl unread_nil
  | append_singleton steps step ih =>
    by_cases reloads : step = .reload
    · exact .inl (unread_concat_iff.2 (.inl reloads))
    · rcases ih with unread | ⟨start, first⟩
      · by_cases reads : step.Reads defaults
        · exact .inr ⟨steps, firstRead_concat_iff.2 ⟨reloads, .inr ⟨rfl, unread, reads⟩⟩⟩
        · exact .inl (unread_concat_iff.2 (.inr ⟨unread, reads⟩))
      · exact .inr ⟨start, firstRead_concat_iff.2 ⟨reloads, .inl first⟩⟩

/-- After a read there is a first one. -/
theorem exists_firstRead_of_reads (reads : step.Reads defaults) (steps : List Step) :
    ∃ start, FirstRead defaults (steps ++ [step]) start := by
  rcases unread_or_exists_firstRead defaults (steps ++ [step]) with unread | first
  · rcases unread_concat_iff.1 unread with rfl | ⟨-, silent⟩
    · exact absurd reads (not_reads_reload defaults)
    · exact absurd reads silent
  · exact first

/-- The next read after a reload is the first one. -/
theorem firstRead_of_reload {earlier quiet : List Step}
    (split : steps = earlier ++ .reload :: quiet)
    (silent : ∀ step ∈ quiet, ¬ step.Reads defaults) (reads : step.Reads defaults) :
    FirstRead defaults (steps ++ [step]) steps where
  follows := ⟨step, [], rfl, reads, List.not_mem_nil⟩
  unread := by
    refine ⟨earlier ++ [.reload], quiet, ?_, .inr List.getLast?_concat, silent⟩
    rw [split, List.append_assoc]
    rfl

/-- There is one first read. -/
theorem FirstRead.unique {other : List Step} (first : FirstRead defaults steps start)
    (second : FirstRead defaults steps other) : start = other := by
  induction steps using List.reverseRecOn with
  | nil =>
    obtain ⟨_, _, split, -⟩ := first.follows
    exact absurd split (by simp)
  | append_singleton steps step ih =>
    obtain ⟨-, before | ⟨rfl, unread, -⟩⟩ := firstRead_concat_iff.1 first
    · obtain ⟨-, after | ⟨rfl, unread, -⟩⟩ := firstRead_concat_iff.1 second
      · exact ih before after
      · exact absurd unread before.not_unread
    · obtain ⟨-, after | ⟨rfl, -, -⟩⟩ := firstRead_concat_iff.1 second
      · exact absurd unread after.not_unread
      · rfl

end

/-! ## The invariant -/

/-- The settings after steps. -/
def after (s : Settings) (steps : List Step) : Settings :=
  steps.foldl (fun s step => (s.step step).2) s

/-- The state of a settings object with these defaults after a run of steps. -/
structure Settled (defaults : Members) (steps : List Step) (s : Settings) : Prop where
  unchanged : s.defaults = defaults
  inForce : s.inForce.getD [] = inForceAfter steps
  /-- Without a read there is no snapshot. -/
  untaken : Unread defaults steps → s.snapshot = none
  /-- The snapshot is what was in force at the first read. -/
  taken : ∀ start, FirstRead defaults steps start → s.snapshot = some (inForceAfter start)
  /-- Every value kept is noted, so that a reload clears it. -/
  noted : ∀ m ∈ s.read, m.1 ∈ s.noted
  /-- Every value kept is the one of the snapshot, or else the default. -/
  kept : ∀ m ∈ s.read, ∃ default, defaults.get? m.1 = some default ∧
    m.2 = (s.table.get? m.1).getD default ∧ s.snapshot = some s.table

section
variable {defaults : Members} {steps : List Step} {s : Settings}

theorem settled_fresh (defaults : Members) :
    Settled (fresh defaults).defaults [] (fresh defaults) where
  unchanged := rfl
  inForce := rfl
  untaken := fun _ => rfl
  taken := fun _ first => absurd unread_nil first.not_unread
  noted := fun _ h => absurd h List.not_mem_nil
  kept := fun _ h => absurd h List.not_mem_nil

/-- A step that neither reads a setting nor reloads keeps the snapshot and makes up no values. -/
theorem Settled.of_silent (settled : Settled defaults steps s) (step : Step) (next : Settings)
    (kept : step ≠ .reload) (silent : ¬ step.Reads defaults)
    (unchanged : next.defaults = s.defaults)
    (inForce : next.inForce.getD [] = step.inForce (s.inForce.getD []))
    (snapshot : next.snapshot = s.snapshot) (noted : next.noted = s.noted)
    (read : ∀ m ∈ next.read, m ∈ s.read) : Settled defaults (steps ++ [step]) next := by
  refine ⟨unchanged.trans settled.unchanged, ?_, ?_, ?_, ?_, ?_⟩
  · rw [inForceAfter_concat, inForce, settled.inForce]
  · intro unread
    rw [snapshot]
    exact settled.untaken ((unread_concat_iff.1 unread).resolve_left kept).1
  · intro start first
    obtain ⟨-, before | ⟨-, -, reads⟩⟩ := firstRead_concat_iff.1 first
    · rw [snapshot]
      exact settled.taken start before
    · exact absurd reads silent
  · intro m hm
    rw [noted]
    exact settled.noted m (read m hm)
  · intro m hm
    obtain ⟨default, given, value, taken⟩ := settled.kept m (read m hm)
    have table : next.table = s.table := by rw [table, table, snapshot, taken]; rfl
    rw [table, snapshot]
    exact ⟨default, given, value, taken⟩

/-- A reload forgets the snapshot, and all values because all their names are noted. -/
theorem Settled.reload (settled : Settled defaults steps s) :
    Settled defaults (steps ++ [.reload]) s.reload := by
  have none : s.reload.read = [] := by
    refine List.filter_eq_nil_iff.2 fun m hm => ?_
    simpa using settled.noted m hm
  refine ⟨settled.unchanged, ?_, fun _ => rfl, ?_, ?_, ?_⟩
  · rw [inForceAfter_concat]
    exact settled.inForce
  · intro start first
    exact absurd rfl (firstRead_concat_iff.1 first).1
  · rw [none]
    exact fun _ h => absurd h List.not_mem_nil
  · rw [none]
    exact fun _ h => absurd h List.not_mem_nil

/-- What a read of a setting sees: the table in force at the first read since the last reload. -/
theorem Settled.table_eq (settled : Settled defaults steps s) {step : Step} {start : List Step}
    (first : FirstRead defaults (steps ++ [step]) start) : s.table = inForceAfter start := by
  unfold table
  obtain ⟨-, before | ⟨rfl, unread, -⟩⟩ := firstRead_concat_iff.1 first
  · rw [settled.taken start before]
    rfl
  · rw [settled.untaken unread]
    exact settled.inForce

theorem ownPart?_eq_none {name : Text} (ordinary : name ∉ ownNames) : s.ownPart? name = none := by
  have apart {own : Text} (h : own ∈ ownNames) : name ≠ own := fun same => ordinary (same ▸ h)
  rw [ownPart?, if_neg (apart (by decide)), if_neg (apart (by decide)),
    if_neg (apart (by decide))]

/-- A value kept is the one that reading its name anew would give. -/
theorem Settled.value_of_read (settled : Settled defaults steps s) {name : Text} {value : Value}
    (found : s.read.get? name = some value) : ∃ default, defaults.get? name = some default ∧
      value = (s.table.get? name).getD default ∧ s.snapshot = some s.table :=
  settled.kept _ (Members.mem_of_get? found)

/-- A name without a default is no setting, whatever the table in force says of it. -/
theorem Settled.get_unknown (settled : Settled defaults steps s) {name : Text}
    (ordinary : name ∉ ownNames) (unknown : defaults.get? name = none) :
    s.get name = .error (.unknownSetting name) := by
  rw [get, ownPart?_eq_none ordinary]
  show s.readName name = _
  unfold readName
  cases found : s.read.get? name with
  | some value =>
    obtain ⟨default, given, -⟩ := settled.value_of_read found
    rw [unknown] at given
    cases given
  | none =>
    rw [settled.unchanged, unknown]

/-- Reading a setting gives its value in the table that reads see, or else its default. It takes
the snapshot if there is none, keeps the value and notes the name. -/
theorem Settled.get_setting (settled : Settled defaults steps s) {name : Text} {default : Value}
    (ordinary : name ∉ ownNames) (setting : defaults.get? name = some default) :
    ∃ next, s.get name = .ok ((s.table.get? name).getD default, next) ∧
      Settled defaults (steps ++ [.get name]) next := by
  have reads : (Step.get name).Reads defaults := reads_of_setting setting
  have read : ¬ Unread defaults (steps ++ [.get name]) := by
    rw [unread_concat_iff]
    rintro (reload | ⟨-, silent⟩)
    · cases reload
    · exact silent reads
  have inForce : s.inForce.getD [] = inForceAfter (steps ++ [.get name]) := by
    rw [inForceAfter_concat]
    exact settled.inForce
  rw [get, ownPart?_eq_none ordinary]
  show ∃ next, s.readName name = _ ∧ _
  unfold readName
  cases found : s.read.get? name with
  | some value =>
    obtain ⟨other, given, rfl, snapshot⟩ := settled.value_of_read found
    obtain rfl := Option.some.inj (setting.symm.trans given)
    refine ⟨s, rfl, settled.unchanged, inForce, fun h => absurd h read, ?_, settled.noted,
      settled.kept⟩
    intro start first
    rw [snapshot, settled.table_eq first]
  | none =>
    rw [settled.unchanged, setting]
    refine ⟨_, rfl, rfl, inForce, fun h => absurd h read, ?_, ?_, ?_⟩
    · intro start first
      exact congrArg some (settled.table_eq first)
    · intro m hm
      rcases Members.mem_put hm with hm | rfl
      · exact List.mem_insert_of_mem (settled.noted m hm)
      · exact List.mem_insert_self
    · intro m hm
      rcases Members.mem_put hm with hm | rfl
      · obtain ⟨other, given, value, -⟩ := settled.kept m hm
        exact ⟨other, given, value, rfl⟩
      · exact ⟨default, setting, rfl, rfl⟩

/-- A read of a setting is answered from the table in force at the first read. -/
theorem Settled.answer_eq (settled : Settled defaults steps s) {name : Text} {default : Value}
    (ordinary : name ∉ ownNames) (setting : defaults.get? name = some default) {start : List Step}
    (first : FirstRead defaults (steps ++ [.get name]) start) :
    (s.step (.get name)).1 = .ok (((inForceAfter start).get? name).getD default) := by
  obtain ⟨next, read, -⟩ := settled.get_setting ordinary setting
  rw [step, read, settled.table_eq first]

/-- Forgetting a name leaves the snapshot and the notes. -/
theorem Settled.forget (settled : Settled defaults steps s) {name : Text}
    (ordinary : name ∉ ownNames) :
    Settled defaults (steps ++ [.forget name]) (s.step (.forget name)).2 := by
  have foreign : ¬ (name = "_user_settings".toList && s.snapshot.isSome) = true := by
    intro own
    rw [of_decide_eq_true (Bool.and_eq_true_iff.1 own).1] at ordinary
    exact ordinary (by decide)
  have silent (next : Settings) := settled.of_silent (.forget name) next nofun id
  rw [step, Settings.forget, if_neg foreign]
  cases s.read.get? name with
  | none => exact silent s rfl rfl rfl rfl fun _ h => h
  | some value => exact silent _ rfl rfl rfl rfl fun m hm => (List.mem_filter.1 hm).1

/-- One step keeps the invariant. -/
theorem settled_step (settled : Settled defaults steps s) {step : Step}
    (ordinary : step.Ordinary) : Settled defaults (steps ++ [step]) (s.step step).2 := by
  cases step with
  | set table => exact settled.of_silent (.set table) _ nofun id rfl rfl rfl rfl fun _ h => h
  | unset => exact settled.of_silent .unset _ nofun id rfl rfl rfl rfl fun _ h => h
  | reload => exact settled.reload
  | forget name => exact settled.forget ordinary
  | get name =>
    cases setting : defaults.get? name with
    | some default =>
      obtain ⟨next, given, kept⟩ := settled.get_setting ordinary setting
      rw [step, given]
      exact kept
    | none =>
      have silent : ¬ (Step.get name).Reads defaults := by
        rw [Step.Reads, setting]
        exact Bool.false_ne_true
      rw [step, settled.get_unknown ordinary setting]
      exact settled.of_silent (.get name) s nofun silent rfl rfl rfl rfl fun _ h => h

/-- So does a run. -/
theorem settled_after (settled : Settled defaults steps s) {later : List Step}
    (ordinary : ∀ step ∈ later, step.Ordinary) :
    Settled defaults (steps ++ later) (s.after later) := by
  induction later generalizing steps s with
  | nil =>
    rw [List.append_nil]
    exact settled
  | cons step rest ih =>
    have next := settled_step settled (ordinary step List.mem_cons_self)
    have run := ih next fun other hother => ordinary other (List.mem_cons_of_mem step hother)
    rw [List.append_assoc] at run
    exact run

end

/-! ## The law -/

theorem length_run (s : Settings) (steps : List Step) : (s.run steps).length = steps.length := by
  induction steps generalizing s with
  | nil => rfl
  | cons step rest ih => exact congrArg (· + 1) (ih _)

theorem run_append (s : Settings) (steps later : List Step) :
    s.run (steps ++ later) = s.run steps ++ (s.after steps).run later := by
  induction steps generalizing s with
  | nil => rfl
  | cons step rest ih => exact congrArg ((s.step step).1 :: ·) (ih _)

/-- The answer to a step after others is the one that the state after them gives. -/
theorem getElem?_run (s : Settings) (before later : List Step) (step : Step) :
    (s.run (before ++ step :: later))[before.length]? = some ((s.after before).step step).1 := by
  rw [run_append, List.getElem?_append_right (Nat.le_of_eq (length_run s before)), length_run,
    Nat.sub_self]
  rfl

/-- Every read of a fresh settings object is answered from one snapshot between reloads. A setting
has its value in the table that was in force at the first read since the last reload, or else its
default, whatever was set, read or forgotten since; so after a reload the next read sees the table
then in force. A name without a default fails, and asking for it changes nothing: it takes no
snapshot. -/
theorem run_between_reloads (given : Members) {before : List Step} {name : Text}
    (ordinary : ∀ step ∈ before ++ [Step.get name], step.Ordinary) (later : List Step) :
    ∃ answer, ((fresh given).run (before ++ Step.get name :: later))[before.length]? = some answer ∧
      (∀ default, (fresh given).defaults.get? name = some default →
        (∃! start, FirstRead (fresh given).defaults (before ++ [Step.get name]) start) ∧
        (∀ start, FirstRead (fresh given).defaults (before ++ [Step.get name]) start →
          answer = .ok (((inForceAfter start).get? name).getD default)) ∧
        ∀ earlier quiet, before = earlier ++ Step.reload :: quiet →
          (∀ step ∈ quiet, ¬ step.Reads (fresh given).defaults) →
          answer = .ok (((inForceAfter before).get? name).getD default)) ∧
      ((fresh given).defaults.get? name = none → answer = .error (.unknownSetting name) ∧
        (fresh given).after (before ++ [Step.get name]) = (fresh given).after before) := by
  obtain ⟨before_ordinary, last⟩ := List.forall_mem_append.1 ordinary
  have own : name ∉ ownNames := last (.get name) List.mem_cons_self
  have settled := settled_after (settled_fresh given) before_ordinary
  rw [List.nil_append] at settled
  refine ⟨_, getElem?_run (fresh given) before later (.get name), ?_, ?_⟩
  · intro default setting
    have reads := reads_of_setting setting
    obtain ⟨start, first⟩ := exists_firstRead_of_reads reads before
    refine ⟨⟨start, first, fun other second => second.unique first⟩,
      fun start => settled.answer_eq own setting, ?_⟩
    intro earlier quiet split silent
    exact settled.answer_eq own setting (firstRead_of_reload split silent reads)
  · intro unknown
    have fails : ((fresh given).after before).step (.get name) =
        (.error (.unknownSetting name), (fresh given).after before) := by
      rw [step, settled.get_unknown own unknown]
    refine ⟨congrArg Prod.fst fails, ?_⟩
    rw [after, List.foldl_append]
    exact congrArg Prod.snd fails

/-- Steps that change the table in force before and after the first read, which asks for another
name than a setting first. -/
def pageSteps : List Step :=
  [.set [("MAX_PAGE_SIZE", .int 7)], .get "MAX_PAGE_SIZE", .reload, .get "NOT_A_SETTING",
   .set [("MAX_PAGE_SIZE", .int 8)], .get "DEFAULT_PAGE_SIZE", .get "MAX_PAGE_SIZE",
   .set [("MAX_PAGE_SIZE", .int 9)], .forget "MAX_PAGE_SIZE"]

theorem firstRead_pageSteps : FirstRead Preferences.standard
    (pageSteps ++ [Step.get "MAX_PAGE_SIZE"]) (pageSteps.take 5) where
  follows := by
    refine ⟨.get "DEFAULT_PAGE_SIZE", _, rfl, rfl, ?_⟩
    simp
  unread := ⟨pageSteps.take 3, (pageSteps.take 5).drop 3, rfl, .inr rfl, by decide⟩

/-- A setting read again after it was changed and forgotten has the value of the first read. -/
theorem run_between_reloads_pageSteps :
    (∀ step ∈ pageSteps ++ [Step.get "MAX_PAGE_SIZE"], step.Ordinary) ∧
    ((fresh []).run (pageSteps ++ [Step.get "MAX_PAGE_SIZE"]))[9]? = some (.ok (.int 8)) := by
  have ordinary : ∀ step ∈ pageSteps ++ [Step.get "MAX_PAGE_SIZE"], step.Ordinary := by decide
  obtain ⟨answer, answered, setting, -⟩ := run_between_reloads [] ordinary []
  have value := (setting (.int 100) rfl).2.1 _ firstRead_pageSteps
  rw [value] at answered
  exact ⟨ordinary, answered⟩

end Listing.Settings
