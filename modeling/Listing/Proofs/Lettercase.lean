import Mathlib
import Listing.Proofs.Verdicts

/-!
# Searching without case

A search lowers the needle and the text apart from each other. Every letter but one has its small
form wherever it stands; a capital sigma has another one where it ends a word, and whether it does
can change when a text stands inside a longer one.

* **in context**: `lowerIn` is the lower-case form of a text between two others, and a longer text
  is lowered piece by piece (`lower_append`);
* **one needle, one place**: its form there is its own exactly if every capital sigma ends a word in
  the longer text as it does in the needle (`lower_eq_lowerIn_iff`);
* **all places**: a letter after the needle, and one before it, are enough to tell whether the
  needle keeps its form everywhere (`sigmasKept_of_letters`), and a needle that does not is not
  found there, since a small sigma of one kind is missing (`sigmasKept_before_letter`,
  `sigmasKept_after_letter`). A needle without a capital sigma always does (`sigmasKept_of_none`).
-/

namespace Listing

/-! ## Texts in context -/

/-- The small form of a capital sigma, which ends a word or does not. -/
def smallSigma (ends : Bool) : Char :=
  Char.ofNat (if ends then 0x3C2 else 0x3C3)

/-- The lower-case form of a text between two others; the one before is given from its end. -/
def lowerIn (before after : Text) : Text → Text
  | [] => []
  | c :: rest =>
    (if c.toNat = 0x3A3 then [smallSigma (endsWord before (rest ++ after))] else lowerLetter c) ++
      lowerIn (c :: before) after rest

theorem lowerAfter_append (before t after : Text) :
    lowerAfter before (t ++ after) =
      lowerIn before after t ++ lowerAfter (t.reverse ++ before) after := by
  induction t generalizing before with
  | nil => rfl
  | cons c rest ih =>
    rw [List.cons_append, lowerAfter, lowerIn, ih, List.append_assoc, List.reverse_cons,
      List.append_assoc]
    rfl

theorem lowerIn_nil (before t : Text) : lowerIn before [] t = lowerAfter before t := by
  have whole := lowerAfter_append before t []
  rw [List.append_nil, lowerAfter, List.append_nil] at whole
  exact whole.symm

theorem lower_append (x y z : Text) :
    lower (x ++ y ++ z) =
      lowerIn [] (y ++ z) x ++ lowerIn x.reverse z y ++ lowerAfter (y.reverse ++ x.reverse) z := by
  rw [lower, List.append_assoc, lowerAfter_append, lowerAfter_append, List.append_nil,
    List.append_assoc]

/-- Whether a capital sigma of a text ends a word, between two texts and between two others, is
related. -/
def SigmasRelated (R : Bool → Bool → Prop) (before after before' after' t : Text) : Prop :=
  ∀ u v, ∀ c : Char, t = u ++ c :: v → c.toNat = 0x3A3 →
    R (endsWord (u.reverse ++ before) (v ++ after)) (endsWord (u.reverse ++ before') (v ++ after'))

/-- Every capital sigma of a text that stands between two others has the form that it has in the
text alone. -/
def SigmasKept (x y z : Text) : Prop :=
  SigmasRelated (· = ·) [] [] x.reverse z y

section
variable {R : Bool → Bool → Prop} {before after before' after' : Text}

theorem sigmasRelated_nil : SigmasRelated R before after before' after' [] := by
  intro u v c same
  exact absurd same.symm (by simp)

theorem sigmasRelated_cons {c : Char} {rest : Text} :
    SigmasRelated R before after before' after' (c :: rest) ↔
      (c.toNat = 0x3A3 → R (endsWord before (rest ++ after)) (endsWord before' (rest ++ after'))) ∧
        SigmasRelated R (c :: before) after (c :: before') after' rest := by
  constructor
  · intro h
    refine ⟨h [] rest c rfl, ?_⟩
    rintro u v d rfl sigma
    simpa using h (c :: u) v d rfl sigma
  · rintro ⟨first, later⟩ u v d same sigma
    cases u with
    | nil =>
      obtain ⟨rfl, rfl⟩ := List.cons.inj same
      exact first sigma
    | cons e u =>
      obtain ⟨rfl, rfl⟩ := List.cons.inj same
      simpa using later u v d rfl sigma

theorem smallSigma_injective {s t : Bool} (h : smallSigma s = smallSigma t) : s = t := by
  revert h
  cases s <;> cases t <;> decide

/-- Two surroundings lower a text alike exactly if they keep its capital sigmas alike. -/
theorem lowerIn_eq_iff {t : Text} :
    lowerIn before after t = lowerIn before' after' t ↔
      SigmasRelated (· = ·) before after before' after' t := by
  induction t generalizing before before' with
  | nil => exact iff_of_true rfl sigmasRelated_nil
  | cons c rest ih =>
    rw [sigmasRelated_cons, ← ih, lowerIn, lowerIn]
    by_cases sigma : c.toNat = 0x3A3
    · rw [if_pos sigma, if_pos sigma, List.singleton_append, List.singleton_append,
        List.cons.injEq]
      constructor
      · rintro ⟨form, later⟩
        exact ⟨fun _ => smallSigma_injective form, later⟩
      · rintro ⟨ends, later⟩
        exact ⟨congrArg smallSigma (ends sigma), later⟩
    · rw [if_neg sigma, if_neg sigma, List.append_cancel_left_eq]
      exact (and_iff_right fun h => absurd h sigma).symm

theorem length_lowerIn (t : Text) :
    (lowerIn before after t).length = (lowerIn before' after' t).length := by
  induction t generalizing before before' with
  | nil => rfl
  | cons c rest ih =>
    rw [lowerIn, lowerIn, List.length_append, List.length_append, ih]
    split <;> rfl

/-- How often the first letter of a lowered text is a small sigma of one kind. -/
theorem count_lowerIn_cons (ends : Bool) (c : Char) (rest : Text) :
    (lowerIn before after (c :: rest)).count (smallSigma ends) =
      (if c.toNat = 0x3A3 then
        if endsWord before (rest ++ after) = ends then 1 else 0
      else (lowerLetter c).count (smallSigma ends)) +
        (lowerIn (c :: before) after rest).count (smallSigma ends) := by
  rw [lowerIn, List.count_append]
  congr 1
  split
  · rw [List.count_singleton]
    congr 1
    exact propext (beq_iff_eq.trans ⟨smallSigma_injective, congrArg smallSigma⟩)
  · rfl

/-- Surroundings in which fewer capital sigmas have one of the two small forms leave fewer of it. -/
theorem count_lowerIn_le {ends : Bool} {t : Text}
    (fewer : SigmasRelated (fun own other => other = ends → own = ends)
      before after before' after' t) :
    (lowerIn before' after' t).count (smallSigma ends) ≤
      (lowerIn before after t).count (smallSigma ends) := by
  induction t generalizing before before' with
  | nil => exact Nat.le_refl _
  | cons c rest ih =>
    obtain ⟨first, later⟩ := sigmasRelated_cons.1 fewer
    rw [count_lowerIn_cons, count_lowerIn_cons]
    apply Nat.add_le_add _ (ih later)
    by_cases sigma : c.toNat = 0x3A3
    · have kept := first sigma
      rw [if_pos sigma, if_pos sigma]
      split
      · next other => rw [if_pos (kept other)]
      · exact Nat.zero_le _
    · rw [if_neg sigma, if_neg sigma]

/-- If they leave as many of it, they change no sigma at all. -/
theorem sigmasRelated_of_count {ends : Bool} {t : Text}
    (fewer : SigmasRelated (fun own other => other = ends → own = ends)
      before after before' after' t)
    (count : (lowerIn before after t).count (smallSigma ends) ≤
      (lowerIn before' after' t).count (smallSigma ends)) :
    SigmasRelated (· = ·) before after before' after' t := by
  induction t generalizing before before' with
  | nil => exact sigmasRelated_nil
  | cons c rest ih =>
    obtain ⟨first, later⟩ := sigmasRelated_cons.1 fewer
    have rests := count_lowerIn_le later
    rw [count_lowerIn_cons, count_lowerIn_cons] at count
    rw [sigmasRelated_cons]
    by_cases sigma : c.toNat = 0x3A3
    · have kept := first sigma
      rw [if_pos sigma, if_pos sigma] at count
      by_cases other : endsWord before' (rest ++ after') = ends
      · rw [if_pos other, if_pos (kept other)] at count
        exact ⟨fun _ => (kept other).trans other.symm, ih later (by omega)⟩
      · rw [if_neg other] at count
        have own : endsWord before (rest ++ after) ≠ ends := by
          intro own
          rw [if_pos own] at count
          omega
        rw [if_neg own] at count
        refine ⟨fun _ => ?_, ih later (by omega)⟩
        revert own other
        cases endsWord before (rest ++ after) <;> cases endsWord before' (rest ++ after') <;>
          cases ends <;> simp
    · rw [if_neg sigma, if_neg sigma] at count
      exact ⟨fun h => absurd h sigma, ih later (by omega)⟩

end

/-! ## Letters nearby -/

/-- What follows a text matters only if all of the text is skipped. -/
theorem meetsLetter_append (v z : Text) :
    meetsLetter (v ++ z) = if v.all isCaseIgnorable then meetsLetter z else meetsLetter v := by
  induction v with
  | nil => rfl
  | cons c rest ih =>
    cases skipped : isCaseIgnorable c with
    | true =>
      have step (t : Text) : meetsLetter (c :: t) = meetsLetter t := by
        unfold meetsLetter
        rw [List.dropWhile_cons_of_pos skipped]
      rw [List.cons_append, step, step, ih, List.all_cons, skipped, Bool.true_and]
    | false =>
      have stop (t : Text) : meetsLetter (c :: t) = isCased c := by
        unfold meetsLetter
        rw [List.dropWhile_cons_of_neg (by simp [skipped])]
      rw [List.cons_append, stop, stop, List.all_cons, skipped, Bool.false_and]
      rfl

/-- A text of which all is skipped has no letter. -/
theorem meetsLetter_of_all {v : Text} (h : v.all isCaseIgnorable = true) :
    meetsLetter v = false := by
  have := meetsLetter_append v []
  rwa [List.append_nil, h, if_pos rfl] at this

/-- A small letter, which no surroundings change. -/
def letter : Text := ['a']

theorem meetsLetter_letter : meetsLetter letter = true := by
  decide +kernel

theorem lowerIn_letter (before after : Text) : lowerIn before after letter = letter := by
  have plain : ('a').toNat ≠ 0x3A3 := by decide
  have small : lowerLetter 'a' = letter := by decide +kernel
  rw [letter, lowerIn, if_neg plain, small]
  rfl

theorem meetsLetter_append_letter {v : Text} (h : meetsLetter v = true) :
    meetsLetter (v ++ letter) = true := by
  rw [meetsLetter_append, meetsLetter_letter, h]
  exact ite_self true

/-- A text without a capital sigma is lowered alike everywhere. -/
theorem sigmasKept_of_none {y : Text} (none : ∀ c ∈ y, c.toNat ≠ 0x3A3) (x z : Text) :
    SigmasKept x y z := by
  rintro u v c rfl sigma
  exact absurd sigma (none c (List.mem_append_right u List.mem_cons_self))

/-- A text whose sigmas keep their form beside a letter, after it and before it, has them in one
form everywhere: what decides about each of them stands in the text itself. -/
theorem sigmasKept_of_letters {y : Text} (after : SigmasKept [] y letter)
    (before : SigmasKept letter y []) (x z : Text) : SigmasKept x y z := by
  intro u v c same sigma
  have right := after u v c same sigma
  have left := before u v c same sigma
  simp only [endsWord, List.reverse_nil, List.append_nil, meetsLetter_append, meetsLetter_letter,
    show letter.reverse = letter from rfl] at right left ⊢
  cases before : u.reverse.all isCaseIgnorable with
  | true =>
    -- Only a letter after the sigma can keep it from depending on what comes before.
    have none := meetsLetter_of_all before
    have next : meetsLetter v = true := by simpa [before, none] using left
    have stops : v.all isCaseIgnorable = false := by
      by_contra all
      simp [meetsLetter_of_all (by simpa using all)] at next
    simp [none, next, stops]
  | false =>
    cases after : v.all isCaseIgnorable with
    | true =>
      have none := meetsLetter_of_all after
      have previous : meetsLetter u.reverse = false := by simpa [after, none] using right
      simp [previous]
    | false => simp

section
variable {x y z : Text}

/-! ## Needles -/

theorem lower_eq_lowerIn (t : Text) : lower t = lowerIn [] [] t :=
  (lowerIn_nil [] t).symm

theorem lower_eq_lowerIn_iff : lower y = lowerIn x.reverse z y ↔ SigmasKept x y z := by
  rw [lower_eq_lowerIn, lowerIn_eq_iff, SigmasKept]

/-- A needle is found where it stands if its sigmas keep their form there. -/
theorem lower_infix_of_sigmasKept (kept : SigmasKept x y z) : lower y <:+: lower (x ++ y ++ z) := by
  rw [lower_append, ← lower_eq_lowerIn_iff.2 kept]
  exact ⟨_, _, rfl⟩

/-- At the start of a text, a needle is found exactly if its sigmas keep their form. -/
theorem lower_prefix_iff : lower y <+: lower (y ++ z) ↔ SigmasKept [] y z := by
  have split := lower_append [] y z
  rw [List.nil_append, lowerIn, List.nil_append] at split
  rw [split, ← lower_eq_lowerIn_iff]
  constructor
  · intro found
    have short := List.prefix_of_prefix_length_le found (List.prefix_append _ _)
      (Nat.le_of_eq (by rw [lower_eq_lowerIn]; exact length_lowerIn y))
    exact short.eq_of_length (by rw [lower_eq_lowerIn]; exact length_lowerIn y)
  · intro same
    rw [same]
    exact List.prefix_append _ _

/-- So it is at the end. -/
theorem lower_suffix_iff : lower y <:+ lower (x ++ y) ↔ SigmasKept x y [] := by
  have split := lower_append x y []
  rw [List.append_nil, List.append_nil, lowerAfter, List.append_nil] at split
  rw [split, ← lower_eq_lowerIn_iff]
  constructor
  · intro found
    have short := List.suffix_of_suffix_length_le found (List.suffix_append _ _)
      (Nat.le_of_eq (by rw [lower_eq_lowerIn]; exact length_lowerIn y))
    exact short.eq_of_length (by rw [lower_eq_lowerIn]; exact length_lowerIn y)
  · intro same
    rw [same]
    exact List.suffix_append _ _

/-- Beside a letter that is no small sigma, a needle that is found has as many of either small sigma
as alone. -/
theorem count_le_of_occurrence (ends : Bool) {before after t : Text}
    (split : lower t = lowerIn before after y ++ letter ∨
      lower t = letter ++ lowerIn before after y)
    (found : lower y <:+: lower t) :
    (lowerIn [] [] y).count (smallSigma ends) ≤
      (lowerIn before after y).count (smallSigma ends) := by
  have other : letter.count (smallSigma ends) = 0 := by
    cases ends <;> decide
  have count := found.sublist.count_le (smallSigma ends)
  rw [lower_eq_lowerIn y] at count
  rcases split with split | split
  · rwa [split, List.count_append, other, Nat.add_zero] at count
  · rwa [split, List.count_append, other, Nat.zero_add] at count

/-- A needle that is found before a letter keeps its sigmas there: a letter after it can only take
final sigmas away. -/
theorem sigmasKept_before_letter (found : lower y <:+: lower (y ++ letter)) :
    SigmasKept [] y letter := by
  have split : lower (y ++ letter) = lowerIn [] letter y ++ letter := by
    rw [lower, lowerAfter_append, ← lowerIn_nil, lowerIn_letter]
  apply sigmasRelated_of_count _ (count_le_of_occurrence true (.inl split) found)
  intro u v c _ _ other
  simp only [endsWord, List.append_nil, Bool.and_eq_true, Bool.not_eq_true'] at other ⊢
  refine ⟨other.1, ?_⟩
  by_contra next
  rw [meetsLetter_append_letter (by simpa using next)] at other
  exact absurd other.2 (by decide)

/-- A needle that is found after a letter keeps its sigmas there: a letter before it can only make
them final. -/
theorem sigmasKept_after_letter (found : lower y <:+: lower (letter ++ y)) :
    SigmasKept letter y [] := by
  have split : lower (letter ++ y) = letter ++ lowerIn letter.reverse [] y := by
    rw [lower, lowerAfter_append, lowerIn_letter, ← lowerIn_nil, List.append_nil]
  apply sigmasRelated_of_count _ (count_le_of_occurrence false (.inr split) found)
  intro u v c _ _ other
  simp only [endsWord, List.append_nil] at other ⊢
  cases previous : meetsLetter u.reverse with
  | false => rfl
  | true =>
    rwa [show letter.reverse = letter from rfl, meetsLetter_append_letter previous] at other

/-- A needle is found in every text that it stands in exactly if its sigmas keep their form in every
one. -/
theorem lower_infix_iff :
    (∀ x z, lower y <:+: lower (x ++ y ++ z)) ↔ ∀ x z, SigmasKept x y z := by
  constructor
  · intro found
    apply sigmasKept_of_letters
    · exact sigmasKept_before_letter (found [] letter)
    · exact sigmasKept_after_letter (by simpa using found letter [])
  · intro kept x z
    exact lower_infix_of_sigmasKept (kept x z)

end

/-! ## Verdicts -/

/-- A search in a text always answers. -/
theorem verdict_search_text {op : Operator} (textual : op.comparison ∈ Comparison.textual)
    (positive : op.negated = false) (field y t : Text) :
    op.verdict field (.text y) (.text t) = .ok (op.comparison.finds (lower y) (lower t)) := by
  rw [verdict_search_of_present field textual rfl, onTexts_of_writable rfl rfl, positive,
    Bool.false_bne]
  rfl

/-- Where a text that holds another one is searched for it. At its start and at its end the search
finds it exactly if every capital sigma of the text looked for has the same small form there as
alone. A search anywhere finds it then, and finds it around every place exactly if that is so
everywhere. -/
theorem verdict_occurrence_iff (field y : Text) :
    (∀ op ∈ [Operator.startsWith, .startsWithStarred], ∀ z,
      op.verdict field (.text y) (.text (y ++ z)) = .ok true ↔ SigmasKept [] y z) ∧
    (∀ x, Operator.endsWith.verdict field (.text y) (.text (x ++ y)) = .ok true ↔
      SigmasKept x y []) ∧
    (∀ op ∈ [Operator.contains, .containsStarred],
      (∀ x z, SigmasKept x y z → op.verdict field (.text y) (.text (x ++ y ++ z)) = .ok true) ∧
      ((∀ x z, op.verdict field (.text y) (.text (x ++ y ++ z)) = .ok true) ↔
        ∀ x z, SigmasKept x y z)) := by
  refine ⟨?starts, ?ends, ?contains⟩
  case starts =>
    intro op listed z
    have kind : op.comparison = .startsWith ∧ op.negated = false := by
      revert op
      decide
    rw [verdict_search_text (by rw [kind.1]; decide) kind.2, kind.1, Except.ok.injEq,
      ← lower_prefix_iff]
    exact List.isPrefixOf_iff_prefix
  case ends =>
    intro x
    rw [verdict_search_text (by decide) rfl, Except.ok.injEq, ← lower_suffix_iff]
    exact List.isSuffixOf_iff_suffix
  case contains =>
    intro op listed
    have kind : op.comparison = .contains ∧ op.negated = false := by
      revert op
      decide
    have found (x z : Text) : op.verdict field (.text y) (.text (x ++ y ++ z)) = .ok true ↔
        lower y <:+: lower (x ++ y ++ z) := by
      rw [verdict_search_text (by rw [kind.1]; decide) kind.2, kind.1, Except.ok.injEq]
      exact occursIn_iff _ _
    simp only [found]
    exact ⟨fun x z => lower_infix_of_sigmasKept, lower_infix_iff⟩

/-- A word that ends in a sigma is not found at the start of a longer word. -/
theorem verdict_occurrence_fails_sigma :
    Operator.startsWith.verdict "name" (.text "ΟΔΟΣ") (.text ("ΟΔΟΣ".toList ++ ['Α'])) =
      .ok false ∧
    Operator.contains.verdict "name" (.text "ΟΔΟΣ") (.text ([] ++ "ΟΔΟΣ".toList ++ ['Α'])) =
      .ok false := by
  decide +kernel

end Listing
