import Listing.Condition
import Listing.Match

/-!
# The meaning of conditions

What a source of rows makes of a condition: a node is the conjunction of its children or the
complement of that, and a leaf reads its path from the record and tests the value there in the
way that the last part of the path names. A test that needs a text which cannot be written has no
verdict, and then the condition has none, unless an earlier child has decided. `both_verdict` is the
law of the fold that joins conditions: no negation is swallowed and none leaks.
-/

namespace Listing

/-! ## Paths -/

/-- A part of a path with one more character at its start. -/
def putFirst (c : Char) : List Text → List Text
  | [] => [[c]]
  | part :: parts => (c :: part) :: parts

/-- The parts of a path, between two underscores each. -/
def pathParts : Text → List Text
  | '_' :: '_' :: rest => [] :: pathParts rest
  | c :: rest => putFirst c (pathParts rest)
  | [] => [[]]

/-- Two underscores. -/
def separator : Text := ['_', '_']

/-- A text that two underscores after it end: it has none of its own, and no single one that
would be taken for the first of them. -/
def Separable (t : Text) : Prop :=
  ¬ separator <:+: t ∧ t.getLast? ≠ some '_'

theorem pathParts_cons {c : Char} {rest : Text} (apart : ¬ (c = '_' ∧ rest.head? = some '_')) :
    pathParts (c :: rest) = putFirst c (pathParts rest) := by
  rw [pathParts]
  rintro more rfl rfl
  exact apart ⟨rfl, rfl⟩

theorem Separable.of_cons {c : Char} {rest : Text} (h : Separable (c :: rest)) :
    Separable rest := by
  constructor
  · intro inside
    exact h.1 (inside.trans (List.suffix_cons c rest).isInfix)
  · intro last
    apply h.2
    rw [List.getLast?_cons, last]
    rfl

theorem Separable.apart {c : Char} {rest : Text} (h : Separable (c :: rest)) (tail : Text)
    (close : rest ≠ [] ∨ tail.head? ≠ some '_' ∨ c ≠ '_') :
    ¬ (c = '_' ∧ (rest ++ tail).head? = some '_') := by
  rintro ⟨rfl, head⟩
  cases rest with
  | nil =>
    rcases close with close | close | close
    · exact close rfl
    · exact close head
    · exact close rfl
  | cons d more =>
    obtain rfl : d = '_' := Option.some.inj head
    exact h.1 ⟨[], more, rfl⟩

/-- A separable text is a part of its own before two underscores. -/
theorem pathParts_append {t : Text} (h : Separable t) (rest : Text) :
    pathParts (t ++ separator ++ rest) = t :: pathParts rest := by
  induction t with
  | nil => rfl
  | cons c more ih =>
    have close : more ≠ [] ∨ (separator ++ rest).head? ≠ some '_' ∨ c ≠ '_' := by
      cases more with
      | nil => exact .inr (.inr fun same => h.2 (congrArg some same))
      | cons d others => exact .inl (List.cons_ne_nil _ _)
    have apart := h.apart (separator ++ rest) close
    rw [List.cons_append, List.cons_append, pathParts_cons (by rwa [List.append_assoc]),
      ih h.of_cons]
    rfl

/-- Without two underscores a text is one part. -/
theorem pathParts_of_separable {t : Text} (h : Separable t) : pathParts t = [t] := by
  induction t with
  | nil => rfl
  | cons c more ih =>
    have apart := h.apart [] (.inr (.inl (by simp)))
    rw [List.append_nil] at apart
    rw [pathParts_cons apart, ih h.of_cons]
    rfl

theorem pathParts_joinWith_append {parts : List Text} (present : parts ≠ [])
    (all : ∀ t ∈ parts, Separable t) (rest : Text) :
    pathParts (joinWith separator parts ++ separator ++ rest) = parts ++ pathParts rest := by
  induction parts with
  | nil => exact absurd rfl present
  | cons t more ih =>
    have first := all t List.mem_cons_self
    cases more with
    | nil =>
      rw [joinWith_singleton]
      exact pathParts_append first rest
    | cons next others =>
      have later := ih (List.cons_ne_nil _ _) fun u hu => all u (List.mem_cons_of_mem t hu)
      rw [joinWith_cons_cons, List.append_assoc, List.append_assoc, pathParts_append first,
        ← List.append_assoc, later]
      rfl

theorem pathParts_joinWith {parts : List Text} (present : parts ≠ [])
    (all : ∀ t ∈ parts, Separable t) : pathParts (joinWith separator parts) = parts := by
  induction parts with
  | nil => exact absurd rfl present
  | cons t more ih =>
    have first := all t List.mem_cons_self
    cases more with
    | nil =>
      rw [joinWith_singleton]
      exact pathParts_of_separable first
    | cons next others =>
      have later := ih (List.cons_ne_nil _ _) fun u hu => all u (List.mem_cons_of_mem t hu)
      rw [joinWith_cons_cons, pathParts_append first, later]

theorem fieldPath_joinWith {parts : List Text} (noDot : ∀ t ∈ parts, '.' ∉ t) :
    fieldPath (joinWith ['.'] parts) = joinWith separator parts := by
  have same {t : Text} (h : '.' ∉ t) : fieldPath t = t := by
    induction t with
    | nil => rfl
    | cons c rest ih =>
      have apart : c ≠ '.' := fun dot => h (dot ▸ List.mem_cons_self)
      rw [fieldPath, List.flatMap_cons, if_neg apart]
      exact congrArg (c :: ·) (ih fun later => h (List.mem_cons_of_mem c later))
  induction parts with
  | nil => rfl
  | cons t more ih =>
    have first := same (noDot t List.mem_cons_self)
    cases more with
    | nil => rw [joinWith_singleton, joinWith_singleton, first]
    | cons next others =>
      have later := ih fun u hu => noDot u (List.mem_cons_of_mem t hu)
      rw [joinWith_cons_cons, joinWith_cons_cons, fieldPath, List.flatMap_append,
        List.flatMap_append]
      show fieldPath t ++ separator ++ fieldPath _ = _
      rw [first, later]

/-! ## Tests -/

/-- A way of testing that the end of a path names. -/
inductive Lookup where
  | order (kind : Comparison)
  | absence
  | find (kind : Comparison) (ignoresCase : Bool)
deriving DecidableEq

/-- The names of the ways of testing. -/
def lookups : List (Text × Lookup) :=
  [("gt", .order .greaterThan), ("gte", .order .greaterOrEqual), ("lt", .order .lessThan),
   ("lte", .order .lessOrEqual), ("isnull", .absence),
   ("contains", .find .contains false), ("icontains", .find .contains true),
   ("startswith", .find .startsWith false), ("istartswith", .find .startsWith true),
   ("endswith", .find .endsWith false), ("iendswith", .find .endsWith true)]

/-- Whether a value passes a test against another. Nothing is in no order with anything and has no
text within it. -/
def Lookup.holds : Lookup → Value → Value → Bool
  | order kind, actual, value => kind.holds actual value
  | absence, actual, value => actual.isNull == value.truthy
  | find kind ignoresCase, actual, value =>
    !actual.isNull && kind.finds (value.foldedText ignoresCase) (actual.foldedText ignoresCase)

/-- Whether a test looks at the texts of two values. -/
def Lookup.needsTexts : Lookup → Value → Value → Bool
  | order _, actual, value => actual.orderedByTexts value
  | absence, _, _ => false
  | find _ _, actual, _ => !actual.isNull

/-- The verdict of a test, unless it needs a text that cannot be written. -/
def Lookup.verdict (lookup : Lookup) (actual value : Value) : Except Failure Bool :=
  verdictOn (lookup.needsTexts actual value) actual value (lookup.holds actual value)

/-- The verdict of a test of equality, in which the case matters. -/
def Value.equalVerdict (actual value : Value) : Except Failure Bool :=
  verdictOn (actual.equatedByTexts value false) actual value (actual.equals value false)

section
variable (attributes : Attributes) (record : Value)

/-- The verdict of the test of a path against a value: the one that the last part names, or else
equality. -/
def testVerdict (path : Text) (value : Value) : Except Failure Bool :=
  match (pathParts path).getLast?.bind fun name => lookups.lookup name with
  | some lookup => lookup.verdict (record.follow attributes (pathParts path).dropLast) value
  | none => (record.follow attributes (pathParts path)).equalVerdict value

mutual

/-- The verdict of a condition on a record. -/
def Condition.verdict : Condition → Except Failure Bool
  | .test path value => testVerdict attributes record path value
  | .all negated children => (Condition.verdictOfAll children).map (negated != ·)
  | .blank _ mark => .ok !mark.truthy

/-- The verdict of conditions together: each is tested until one does not hold. -/
def Condition.verdictOfAll : List Condition → Except Failure Bool
  | [] => .ok true
  | c :: rest => andAlso (Condition.verdict c) (Condition.verdictOfAll rest)

end

/-- A condition that, if it has no tests, holds of the record. -/
def Condition.Proper (c : Condition) : Prop :=
  c.isEmpty = true → c.verdict attributes record = .ok true

end

theorem map_false_bne (v : Except Failure Bool) : v.map (false != ·) = v := by
  cases v with
  | error failure => rfl
  | ok b => exact congrArg Except.ok (Bool.false_bne b)

namespace Condition
variable {attributes : Attributes} {record : Value}

theorem verdictOfAll_append (before after : List Condition) :
    verdictOfAll attributes record (before ++ after) =
      andAlso (verdictOfAll attributes record before) (verdictOfAll attributes record after) := by
  induction before with
  | nil => rfl
  | cons c rest ih => rw [List.cons_append, verdictOfAll, verdictOfAll, ih, andAlso_assoc]

theorem verdictOfAll_asChildren (c : Condition) :
    verdictOfAll attributes record c.asChildren = c.verdict attributes record := by
  unfold asChildren
  split
  · rw [verdict, map_false_bne]
  · rw [verdictOfAll, verdictOfAll, andAlso_true]

/-- Both conditions together have the verdict of each: an empty one gives way, a negated one stays
whole, and only the children of one that is not negated are taken over. -/
theorem both_verdict {a b : Condition} (properA : a.Proper attributes record)
    (properB : b.Proper attributes record) : (a.both b).verdict attributes record =
      andAlso (a.verdict attributes record) (b.verdict attributes record) := by
  unfold both
  -- An empty side is dropped whatever its negation, which is why it has to be proper.
  by_cases emptyA : a.isEmpty = true
  · rw [if_pos emptyA, properA emptyA, true_andAlso]
  · by_cases emptyB : b.isEmpty = true
    · rw [if_neg emptyA, if_pos emptyB, properB emptyB, andAlso_true]
    · rw [if_neg emptyA, if_neg emptyB, verdict, map_false_bne, verdictOfAll_append,
        verdictOfAll_asChildren, verdictOfAll_asChildren]

theorem isEmpty_asChildren {c : Condition} (h : ¬ c.isEmpty = true) : c.asChildren ≠ [] := by
  unfold asChildren
  split
  · rintro rfl
    exact h rfl
  · exact List.cons_ne_nil _ _

theorem proper_both {a b : Condition} (properA : a.Proper attributes record)
    (properB : b.Proper attributes record) : (a.both b).Proper attributes record := by
  unfold both
  by_cases emptyA : a.isEmpty = true
  · rwa [if_pos emptyA]
  · by_cases emptyB : b.isEmpty = true
    · rwa [if_neg emptyA, if_pos emptyB]
    · rw [if_neg emptyA, if_neg emptyB]
      intro empty
      cases children : a.asChildren with
      | nil => exact absurd children (isEmpty_asChildren emptyA)
      | cons c rest =>
        rw [children] at empty
        contradiction

end Condition

end Listing
