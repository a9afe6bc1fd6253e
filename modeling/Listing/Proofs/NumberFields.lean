import Mathlib
import Listing.Proofs.Grammar
import Listing.Proofs.Seams

/-!
# Fields of numbers

A field whose values are declared to be numbers takes the texts of the grammar of literals and
refuses every other text, with the text in the reason (`ValueType.coerce_number_iff`). Where a list
of filters compares such a field with a text that is refused, the item gives one fault, at its place
among the faults of the others, and neither a clause nor a warning.
-/

namespace Listing

namespace ValueType
variable {t : Text}

theorem coerce_of_line {l : NumberLiteral} (line : NumberLiteral.Line t l) :
    coerce (some .number) t = .ok (.number (.real l.value)) := by
  rw [coerce, NumberLiteral.read?_eq_some_iff.2 line]

theorem coerce_of_not_numberText (h : ¬ NumberText t) :
    coerce (some .number) t = .error (.notNumber t) := by
  rw [coerce, NumberText.read?_eq_none_iff.2 h]

end ValueType

/-- An item of a list of filters compares a field of numbers with the value of an expression. -/
structure Capability.ComparesNumber (c : Capability) (item : Text) (e : Expression) : Prop where
  cut : e.Cut item
  grants : c.Grants e (some .number)
  valued : e.op.checksNull = false

namespace Request
variable {c : Capability} {item : Text}

/-- What one item gives stands between what the items before it and those after it give. -/
theorem readFilters_of_items {raw : Option Text} {before after : List Text}
    (items : filterItems raw = before ++ item :: after) :
    readFilters raw c = .ofVerdicts (before.map (judgeFilter c)) ++
      (.ofVerdicts [judgeFilter c item] ++ .ofVerdicts (after.map (judgeFilter c))) := by
  rw [← ofVerdicts_append, ← ofVerdicts_append, readFilters, items, List.map_append, List.map_cons]
  rfl

/-- A field of numbers refuses what is no number. -/
theorem judgeFilter_of_not_numberText {e : Expression} (compares : c.ComparesNumber item e)
    (h : ¬ NumberText e.value) :
    judgeFilter c item = .refused (.badValue e.field (.notNumber e.value)) :=
  decides_iff.1 (.misfit compares.cut compares.grants compares.valued
    (ValueType.coerce_of_not_numberText h))

end Request

/-- A text is read as a number exactly if it is one in the grammar. Any other text is refused, and
an item of a list of filters that compares a field of numbers with it gives one fault of the
filters, and nothing else. -/
theorem ValueType.coerce_number_iff (t : Text) :
    ((∃ v, coerce (some .number) t = .ok v) ↔ NumberText t) ∧
    (¬ NumberText t →
      coerce (some .number) t = .error (.notNumber t) ∧
      ∀ (c : Capability) (item : Text) (e : Expression), c.ComparesNumber item e → e.value = t →
        (Fault.badValue e.field (.notNumber t)).kind = "invalid_filter".toList ∧
        ∀ (raw : Option Text) (before after : List Text),
          Request.filterItems raw = before ++ item :: after →
          Request.readFilters raw c =
            .ofVerdicts (before.map (Request.judgeFilter c)) ++
              (⟨[], [.badValue e.field (.notNumber t)], []⟩ ++
                .ofVerdicts (after.map (Request.judgeFilter c)))) := by
  refine ⟨⟨?taken, ?known⟩, fun h => ⟨coerce_of_not_numberText h, ?reported⟩⟩
  case taken =>
    rintro ⟨v, read⟩
    by_contra h
    rw [coerce_of_not_numberText h] at read
    contradiction
  case known =>
    rintro ⟨l, line⟩
    exact ⟨_, coerce_of_line line⟩
  case reported =>
    rintro c item e compares rfl
    refine ⟨rfl, fun raw before after items => ?_⟩
    rw [Request.readFilters_of_items items, Request.judgeFilter_of_not_numberText compares h]
    rfl

/-- What allows comparisons of one field of numbers. -/
def numericPrices : Capability :=
  { filterable := some [{ field := "price", operators := [">"], declared := some .number }] }

/-- Between two prices stands a text that only begins as a number. -/
theorem ValueType.coerce_number_iff_price :
    let e : Expression := ⟨"price".toList, .greaterThan, "12abc".toList⟩
    let items := "price>5,price>12abc,price>.5e1".toList
    ¬ NumberText e.value ∧ numericPrices.ComparesNumber "price>12abc".toList e ∧
      Request.filterItems (some items) =
        ["price>5".toList] ++ "price>12abc".toList :: ["price>.5e1".toList] ∧
      (Request.readFilters (some items) numericPrices).faults =
        [.badValue "price".toList (.notNumber "12abc".toList)] := by
  intro e items
  have none : ¬ NumberText e.value := by decide
  have compares : numericPrices.ComparesNumber "price>12abc".toList e :=
    ⟨Expression.read?_eq_some_iff.1 (by decide), ⟨_, ruleFor?_eq_some_iff.1 rfl, by decide, rfl⟩,
      rfl⟩
  have split : Request.filterItems (some items) =
      ["price>5".toList] ++ "price>12abc".toList :: ["price>.5e1".toList] := by
    decide
  refine ⟨none, compares, split, ?_⟩
  rw [(((coerce_number_iff e.value).2 none).2 numericPrices _ e compares rfl).2 _ _ _ split]
  rfl

end Listing
