import Listing.Match

/-!
# Paths into records

A dotted path is followed step by step, from a value to what it has under the next name: a
dictionary its member, any other value its attribute (`follow_eq_foldlM`). Where a step finds
nothing, nothing is left, and nothing has no attributes: so what one path leads to can be taken as
the start of the next, at any depth and also after a missing step (`valueAt_append_dot`). This holds
whatever the attributes of values are.
-/

namespace Listing.Value

section
variable (attributes : Attributes)

/-- The steps are taken one after the other until one finds nothing. -/
theorem follow_eq_foldlM (v : Value) (steps : List Text) :
    v.follow attributes steps = (steps.foldlM (member? attributes) v).getD .null := by
  induction steps generalizing v with
  | nil => rfl
  | cons name rest ih =>
    rw [follow, List.foldlM_cons]
    cases v.member? attributes name with
    | none => rfl
    | some w => exact ih w

theorem follow_null (steps : List Text) : Value.null.follow attributes steps = .null := by
  cases steps <;> rfl

theorem follow_append (v : Value) (before after : List Text) :
    v.follow attributes (before ++ after) =
      (v.follow attributes before).follow attributes after := by
  -- On the first steps: a step that finds nothing ends both sides at once.
  induction before generalizing v with
  | nil => rfl
  | cons name rest ih =>
    rw [List.cons_append, follow, follow]
    cases v.member? attributes name with
    | none => exact (follow_null attributes after).symm
    | some w => exact ih w

variable {attributes}

/-- Nothing is found after steps that lead to nothing. -/
theorem follow_append_of_null {v : Value} {before : List Text}
    (gone : v.follow attributes before = .null) (after : List Text) :
    v.follow attributes (before ++ after) = .null := by
  rw [follow_append, gone, follow_null]

end

/-- A path is followed to its end by following its parts one after the other, and a value is found
at its end only by a member or an attribute for every step. A step that finds none, or leads to
nothing, leaves nothing in both ways, wherever it stands. -/
theorem valueAt_append_dot (attributes : Attributes) (record : Value) (p q : Text) :
    record.valueAt attributes (p ++ '.' :: q) =
        (record.valueAt attributes p).valueAt attributes q ∧
      (∀ path : Text, record.valueAt attributes path =
        ((path.splitOn '.').foldlM (member? attributes) record).getD .null) ∧
      ∀ before after : List Text, (p ++ '.' :: q).splitOn '.' = before ++ after →
        record.follow attributes before = .null →
          record.valueAt attributes (p ++ '.' :: q) = .null ∧
            (record.valueAt attributes p).valueAt attributes q = .null := by
  have composed : record.valueAt attributes (p ++ '.' :: q) =
      (record.valueAt attributes p).valueAt attributes q := by
    rw [valueAt, splitOn_append_cons, follow_append]
    rfl
  refine ⟨composed, fun path => follow_eq_foldlM attributes record _,
    fun before after split gone => ?_⟩
  have nothing : record.valueAt attributes (p ++ '.' :: q) = .null := by
    rw [valueAt, split]
    exact follow_append_of_null gone after
  exact ⟨nothing, composed ▸ nothing⟩

/-- Attributes by which a moment has its year, and an object its members. -/
def yearsAndFields : Attributes
  | .moment iso, name =>
    if name = "year".toList then some (.int (digitsValue (iso.take 4))) else none
  | v, name => v.fields name

/-- A dictionary in an object, under the empty name, members that are missing or nothing, and a
moment and texts with attributes or without. -/
def visitor : Value :=
  .dict [("user", .object [([], .dict [("city", .text "Mumbai")]), ("address", .null),
      ("since", .moment "2024-06-01T00:00:00")]),
    ("tags", .list [.text "new"])]

theorem valueAt_append_dot_visitor :
    visitor.valueAt yearsAndFields "user..city" = .text "Mumbai" ∧
      (visitor.valueAt yearsAndFields "user.").valueAt yearsAndFields "city" = .text "Mumbai" ∧
      visitor.valueAt yearsAndFields "user.since.year" = .int 2024 ∧
      (visitor.valueAt yearsAndFields "user.since").valueAt yearsAndFields "year" = .int 2024 ∧
      visitor.follow yearsAndFields ["user", "address"] = .null ∧
      visitor.valueAt yearsAndFields "user.address.city.name" = .null ∧
      (visitor.valueAt yearsAndFields "user.address.city").valueAt yearsAndFields "name" = .null ∧
      visitor.follow yearsAndFields ["tags", "new"] = .null ∧
      (visitor.valueAt yearsAndFields "tags").valueAt yearsAndFields "new.x" = .null := by
  have found := (valueAt_append_dot yearsAndFields visitor "user." "city").1
  have year := (valueAt_append_dot yearsAndFields visitor "user.since" "year").1
  have absent := (valueAt_append_dot yearsAndFields visitor "user.address.city" "name").2.2
    ["user", "address"] ["city", "name"] (by decide) rfl
  have missing := (valueAt_append_dot yearsAndFields visitor "tags" "new.x").2.2
    ["tags", "new"] ["x"] (by decide) rfl
  exact ⟨rfl, found.symm.trans rfl, rfl, year.symm.trans rfl, rfl, absent.1, absent.2, rfl,
    missing.2⟩

end Listing.Value
