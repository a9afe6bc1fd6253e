import Listing.Proofs.CommaList
import Listing.Proofs.Enforcement

/-!
# Lists joined at a comma

Reading a list is reading its parts: where two texts are joined by a comma, the items of the whole
are those of the first text and then those of the second (`filterItems_append`,
`sortItems_append`), and each item is decided by itself. Only a backslash at the end of the first
text takes the comma for a part of an item. `readLists_append` says this of all that reading gives;
an item that gives no clause leaves the clauses around it as they are.
-/

namespace Listing

/-! ## Items -/

namespace Request

/-- The empty text has one piece, which is no item. -/
theorem filterItems_some (t : Text) :
    filterItems (some t) = ((CommaList.pieces t).map CommaList.unescape).filter (· ≠ []) := by
  cases t with
  | nil => rfl
  | cons c rest => rfl

theorem sortItems_some (t : Text) :
    sortItems (some t) =
      (((t.splitOn ',').map trim).map sortItem).filter fun s => s.field ≠ [] := by
  cases t with
  | nil => rfl
  | cons c rest => rfl

theorem filterItems_append {s : Text} (closed : s.getLast? ≠ some '\\') (t : Text) :
    filterItems (some (s ++ ',' :: t)) = filterItems (some s) ++ filterItems (some t) := by
  have pieces : CommaList.pieces (s ++ ',' :: t) = CommaList.pieces s ++ CommaList.pieces t :=
    CommaList.piecesAfter_append (CommaList.trails_false_iff.2 closed) t
  simp only [filterItems_some, pieces, List.map_append, List.filter_append]

theorem sortItems_append (s t : Text) :
    sortItems (some (s ++ ',' :: t)) = sortItems (some s) ++ sortItems (some t) := by
  simp only [sortItems_some, splitOn_append_cons, List.map_append, List.filter_append]

/-! ## Decisions -/

/-- What two lists of filters give together: each of the three lists in order. -/
instance : Append Filtering where
  append x y := ⟨x.filters ++ y.filters, x.faults ++ y.faults, x.warnings ++ y.warnings⟩

theorem ofVerdicts_append (before after : List Verdict) :
    Filtering.ofVerdicts (before ++ after) = .ofVerdicts before ++ .ofVerdicts after := by
  show (⟨_, _, _⟩ : Filtering) = ⟨_, _, _⟩
  simp only [Filtering.mk.injEq]
  exact ⟨List.filterMap_append, List.filterMap_append, List.filterMap_append⟩

theorem partitionSorts_append (before after : List (Except Warning SortClause)) :
    partitionSorts (before ++ after) =
      ((partitionSorts before).1 ++ (partitionSorts after).1,
       (partitionSorts before).2 ++ (partitionSorts after).2) :=
  Prod.ext List.filterMap_append List.filterMap_append

variable {c : Capability}

theorem readFilters_append {s : Text} (closed : s.getLast? ≠ some '\\') (t : Text) :
    readFilters (some (s ++ ',' :: t)) c = readFilters (some s) c ++ readFilters (some t) c := by
  rw [readFilters, filterItems_append closed, List.map_append, ofVerdicts_append]
  rfl

theorem readSorts_append (noDefault : c.defaultSort = none) (s t : Text) :
    readSorts (some (s ++ ',' :: t)) c =
      ((readSorts (some s) c).1 ++ (readSorts (some t) c).1,
       (readSorts (some s) c).2 ++ (readSorts (some t) c).2) := by
  simp only [readSorts_of_no_default noDefault, sortItems_append, List.map_append,
    partitionSorts_append]

/-! ## Texts in the middle -/

/-- A text between two others that gives no filter leaves the filters as they are without it. -/
theorem readFilters_skip {s x : Text} (closed : s.getLast? ≠ some '\\')
    (ended : x.getLast? ≠ some '\\') (gives : (readFilters (some x) c).filters = []) (t : Text) :
    (readFilters (some (s ++ ',' :: (x ++ ',' :: t))) c).filters =
      (readFilters (some (s ++ ',' :: t)) c).filters := by
  rw [readFilters_append closed, readFilters_append ended, readFilters_append closed]
  show _ ++ ((readFilters (some x) c).filters ++ _) = _ ++ _
  rw [gives, List.nil_append]

theorem readSorts_skip (noDefault : c.defaultSort = none) {x : Text}
    (gives : (readSorts (some x) c).1 = []) (s t : Text) :
    (readSorts (some (s ++ ',' :: (x ++ ',' :: t))) c).1 =
      (readSorts (some (s ++ ',' :: t)) c).1 := by
  simp only [readSorts_append noDefault, gives, List.nil_append]

/-- Reading a list is reading its parts. A list of filters may be cut at a comma after anything but
a backslash, and a list of sorts at every comma, if no default sort stands for an empty list; so a
part that gives no clause changes nothing about the clauses of the others. -/
theorem readLists_append (c : Capability) (s t : Text) :
    (s.getLast? ≠ some '\\' →
      readFilters (some (s ++ ',' :: t)) c = readFilters (some s) c ++ readFilters (some t) c ∧
      ∀ x : Text, x.getLast? ≠ some '\\' → (readFilters (some x) c).filters = [] →
        (readFilters (some (s ++ ',' :: (x ++ ',' :: t))) c).filters =
          (readFilters (some (s ++ ',' :: t)) c).filters) ∧
    (c.defaultSort = none →
      readSorts (some (s ++ ',' :: t)) c =
        ((readSorts (some s) c).1 ++ (readSorts (some t) c).1,
         (readSorts (some s) c).2 ++ (readSorts (some t) c).2) ∧
      ∀ x : Text, (readSorts (some x) c).1 = [] →
        (readSorts (some (s ++ ',' :: (x ++ ',' :: t))) c).1 =
          (readSorts (some (s ++ ',' :: t)) c).1) := by
  refine ⟨fun closed => ⟨readFilters_append closed t, fun x ended gives => ?_⟩,
    fun noDefault => ⟨readSorts_append noDefault s t, fun x gives => ?_⟩⟩
  · exact readFilters_skip closed ended gives t
  · exact readSorts_skip noDefault gives s t

/-- What allows one field, and one operator on it. -/
def priceOnly : Capability :=
  { sortable := some ["price"], filterable := some [{ field := "price", operators := [">"] }] }

/-- Forbidden and invalid items between two others. -/
theorem readLists_append_dropped :
    (readFilters (some "price>5,price<7,,size>3,oops,price>6".toList) priceOnly).filters =
      (readFilters (some "price>5,price>6".toList) priceOnly).filters ∧
    (readSorts (some "price,-size,, - ,-price".toList) priceOnly).1 =
      (readSorts (some "price,-price".toList) priceOnly).1 :=
  ⟨((readLists_append priceOnly "price>5".toList "price>6".toList).1 (by decide)).2
      "price<7,,size>3,oops".toList (by decide) rfl,
    ((readLists_append priceOnly "price".toList "-price".toList).2 rfl).2 "-size,, - ".toList rfl⟩

end Request

end Listing
