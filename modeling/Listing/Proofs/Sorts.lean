import Listing.Render
import Listing.Request

/-!
# Written sorts

The sort clauses that a list of sorts can write and give back: `SortClause.Listable`. Every
clause that was read from a list is one of them, and lists of them come back whole.
-/

namespace Listing

/-! ## Trimmed texts -/

/-- A text without blanks at its ends. -/
def Trimmed (t : Text) : Prop :=
  (∀ c ∈ t.head?, isBlank c = false) ∧ ∀ c ∈ t.getLast?, isBlank c = false

theorem head_dropBlanks (t : Text) : ∀ c ∈ (t.dropWhile isBlank).head?, isBlank c = false := by
  intro c hc
  have first := List.head?_dropWhile_not isBlank t
  rw [Option.mem_def.1 hc] at first
  exact first

theorem dropBlanks_eq_self {t : Text} (h : ∀ c ∈ t.head?, isBlank c = false) :
    t.dropWhile isBlank = t := by
  cases t with
  | nil => rfl
  | cons c rest => exact List.dropWhile_cons_of_neg (by simp [h c rfl])

theorem trimEnd_isPrefix (t : Text) : trimEnd t <+: t := by
  rw [← List.reverse_suffix, trimEnd, List.reverse_reverse]
  exact List.dropWhile_suffix isBlank

theorem trimmed_trim (t : Text) : Trimmed (trim t) := by
  constructor
  · intro c hc
    obtain ⟨rest, whole⟩ := trimEnd_isPrefix (trimStart t)
    apply head_dropBlanks t c
    show c ∈ (trimStart t).head?
    rw [← whole, List.head?_append, show (trimEnd (trimStart t)).head? = some c from hc]
    rfl
  · intro c hc
    rw [trim, trimEnd, List.getLast?_reverse] at hc
    exact head_dropBlanks _ c hc

theorem trim_eq_self {t : Text} (h : Trimmed t) : trim t = t := by
  have start : trimStart t = t := dropBlanks_eq_self h.1
  have reversed : ∀ c ∈ t.reverse.head?, isBlank c = false := by
    rw [List.head?_reverse]
    exact h.2
  rw [trim, start, trimEnd, dropBlanks_eq_self reversed, List.reverse_reverse]

/-- A text is trimmed exactly if there is nothing to trim. -/
theorem trimmed_iff {t : Text} : Trimmed t ↔ trim t = t :=
  ⟨trim_eq_self, fun same => same ▸ trimmed_trim t⟩

theorem mem_of_mem_trim {c : Char} {t : Text} (h : c ∈ trim t) : c ∈ t :=
  (List.dropWhile_suffix isBlank).subset ((trimEnd_isPrefix (trimStart t)).subset h)

/-! ## Lists of sorts -/

/-- A sort clause that can stand as an item of a list. -/
structure SortClause.Listable (s : SortClause) : Prop where
  named : s.field ≠ []
  noComma : ',' ∉ s.field
  trimmed : Trimmed s.field
  unsigned : s.direction = .ascending → s.field.head? ≠ some '-'

namespace Request

/-- What is read from a list of sorts is listable. -/
theorem listable_of_mem_sortItems {raw : Option Text} {s : SortClause} (h : s ∈ sortItems raw) :
    s.Listable := by
  obtain ⟨listed, named⟩ := List.mem_filter.1 h
  have named : s.field ≠ [] := of_decide_eq_true named
  obtain ⟨token, htoken, rfl⟩ := List.mem_map.1 listed
  obtain ⟨part, hpart, rfl⟩ : ∃ part, ',' ∉ part ∧ trim part = token := by
    unfold CommaList.splitSorts at htoken
    split at htoken
    · exact absurd htoken List.not_mem_nil
    · obtain ⟨part, hpart, same⟩ := List.mem_map.1 htoken
      exact ⟨part, not_mem_of_mem_splitOn hpart, same⟩
  have noComma : ',' ∉ trim part := fun h => hpart (mem_of_mem_trim h)
  cases split : trim part with
  | nil =>
    rw [split] at named
    exact absurd rfl named
  | cons c name =>
    rw [split] at named noComma
    -- After a minus sign the name is trimmed again, without one it is trimmed already.
    by_cases minus : c = '-'
    · subst minus
      refine ⟨named, fun h => noComma (List.mem_cons_of_mem _ (mem_of_mem_trim h)),
        trimmed_trim name, ?_⟩
      intro ascending
      contradiction
    · have item : sortItem (c :: name) = ⟨trim (c :: name), .ascending⟩ := by
        unfold sortItem
        split
        · next same => exact absurd (List.cons.inj same).1 minus
        · rfl
      have kept : trim (c :: name) = c :: name := split ▸ trim_eq_self (trimmed_trim part)
      rw [item, kept] at named ⊢
      exact ⟨named, noComma, split ▸ trimmed_trim part, fun _ => by simpa using minus⟩

end Request

namespace SortClause

/-- The text of a listable clause is an item: it is not empty, has no comma, and nothing to
trim. -/
theorem Listable.text_facts {s : SortClause} (h : s.Listable) :
    s.text ≠ [] ∧ ',' ∉ s.text ∧ trim s.text = s.text := by
  obtain ⟨field, direction⟩ := s
  cases direction with
  | ascending => exact ⟨h.named, h.noComma, trim_eq_self h.trimmed⟩
  | descending =>
    refine ⟨List.cons_ne_nil _ _, ?_, trim_eq_self ⟨?_, ?_⟩⟩
    · intro comma
      rcases List.mem_cons.1 comma with same | comma
      · exact absurd same (by simp)
      · exact h.noComma comma
    · intro c hc
      obtain rfl : '-' = c := Option.some.inj hc
      decide
    · intro c hc
      apply h.trimmed.2 c
      cases field with
      | nil => exact absurd rfl h.named
      | cons d rest => exact (List.getLast?_cons_cons ▸ hc : c ∈ (d :: rest).getLast?)

theorem Listable.sortItem_text {s : SortClause} (h : s.Listable) :
    Request.sortItem s.text = s := by
  obtain ⟨field, direction⟩ := s
  cases direction with
  | descending =>
    show (⟨trim field, .descending⟩ : SortClause) = _
    rw [trim_eq_self h.trimmed]
  | ascending =>
    have unsigned := h.unsigned rfl
    show Request.sortItem field = _
    unfold Request.sortItem
    split
    · exact absurd rfl unsigned
    · rw [trim_eq_self h.trimmed]

end SortClause

/-- Lists of listable clauses come back from their texts. -/
theorem sortItems_sortsText {sorts : List SortClause} (all : ∀ s ∈ sorts, s.Listable) :
    Request.sortItems (some (sortsText sorts)) = sorts := by
  cases sorts with
  | nil => rfl
  | cons first more =>
    have facts : ∀ t ∈ (first :: more).map SortClause.text, t ≠ [] ∧ ',' ∉ t ∧ trim t = t := by
      intro t ht
      obtain ⟨s, hs, rfl⟩ := List.mem_map.1 ht
      exact (all s hs).text_facts
    have split : (sortsText (first :: more)).splitOn ',' = (first :: more).map SortClause.text :=
      List.splitOn_intercalate ',' (fun t ht => (facts t ht).2.1) (by simp)
    have trimmed : ((first :: more).map SortClause.text).map trim =
        (first :: more).map SortClause.text :=
      (List.map_congr_left fun t ht => (facts t ht).2.2).trans (List.map_id _)
    have written : sortsText (first :: more) ≠ [] := by
      intro empty
      rw [empty] at split
      have head : first.text = [] := (List.cons.inj split).1.symm
      exact (all first List.mem_cons_self).text_facts.1 head
    have items : CommaList.splitSorts (sortsText (first :: more)) =
        (first :: more).map SortClause.text := by
      rw [CommaList.splitSorts, if_neg (by simpa using written), split, trimmed]
    have read : ((first :: more).map SortClause.text).map Request.sortItem = first :: more := by
      rw [List.map_map]
      exact (List.map_congr_left fun s hs => (all s hs).sortItem_text).trans (List.map_id _)
    rw [Request.sortItems, Option.getD_some, items, read, List.filter_eq_self]
    intro s hs
    exact decide_eq_true (all s hs).named

end Listing
