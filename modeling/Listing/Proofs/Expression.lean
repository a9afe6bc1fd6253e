import Listing.Operator

/-!
# The boundary of an expression

What the scan for an operator finds, said without the scan: a field of at least one character,
before which no later token begins, and the longest token there. `read?_eq_some_iff` ties the
two: an expression is read from a text exactly when it is a cut of the text. In the positions of the
text, `read?_leftmost_longest` says both what is read and when nothing is.
-/

namespace Listing

/-! ## The longest token at a place -/

namespace Operator

theorem atStart_eq_none_iff {t : Text} : atStart t = none ↔ ∀ op : Operator, ¬ op.token <+: t := by
  unfold atStart
  rw [List.find?_eq_none]
  constructor
  · intro none op begins
    exact none op (mem_longestFirst op) (List.isPrefixOf_iff_prefix.2 begins)
  · intro none op _ begins
    exact none op (List.isPrefixOf_iff_prefix.1 begins)

theorem prefix_of_atStart {t : Text} {op : Operator} (h : atStart t = some op) :
    op.token <+: t := by
  unfold atStart at h
  have fits := List.find?_some h
  exact List.isPrefixOf_iff_prefix.1 fits

/-- The operators stand in the table with the longer tokens first, so the first that fits is the
longest that fits. -/
theorem longest_of_atStart {t : Text} {op other : Operator} (h : atStart t = some op)
    (begins : other.token <+: t) : other.token.length ≤ op.token.length := by
  obtain ⟨-, before, after, split, earlier⟩ := List.find?_eq_some_iff_append.1 h
  have place : other ∈ before ++ op :: after := split ▸ mem_longestFirst other
  have sorted := longestFirst_sorted
  rw [split, List.pairwise_append, List.pairwise_cons] at sorted
  rcases List.mem_append.1 place with early | late
  · have fits := earlier other early
    rw [List.isPrefixOf_iff_prefix.2 begins] at fits
    contradiction
  · rcases List.mem_cons.1 late with rfl | late
    · exact Nat.le_refl _
    · exact sorted.2.1.1 other late

theorem atStart_eq_some_iff {t : Text} {op : Operator} :
    atStart t = some op ↔ op.token <+: t ∧
      ∀ other : Operator, other.token <+: t → other.token.length ≤ op.token.length := by
  constructor
  · intro h
    exact ⟨prefix_of_atStart h, fun other => longest_of_atStart h⟩
  · rintro ⟨begins, longest⟩
    cases found : atStart t with
    | none => exact absurd begins (atStart_eq_none_iff.1 found op)
    | some best =>
      have bestBegins := prefix_of_atStart found
      have below := longest best bestBegins
      have above := longest_of_atStart found begins
      have same : best.token.length = op.token.length := Nat.le_antisymm below above
      have tokens : best.token = op.token :=
        (List.prefix_of_prefix_length_le bestBegins begins below).eq_of_length same
      rw [token_injective tokens]

end Operator

/-! ## What the scan finds -/

namespace Expression

/-- An expression as it stands in a text: no token begins within its field, and its own token is
the longest one after the field. -/
structure Found (t : Text) (e : Expression) : Prop where
  text : e.text = t
  leftmost : ∀ i < e.field.length, ∀ op : Operator, ¬ op.token <+: t.drop i
  longest : ∀ op : Operator, op.token <+: e.op.token ++ e.value →
    op.token.length ≤ e.op.token.length

/-- With no field, the token stands at the start. -/
theorem found_unnamed_iff {t value : Text} {op : Operator} :
    Found t ⟨[], op, value⟩ ↔ Operator.atStart t = some op ∧ value = t.drop op.token.length := by
  constructor
  · rintro ⟨text, -, longest⟩
    have split : op.token ++ value = t := text
    refine ⟨Operator.atStart_eq_some_iff.2 ⟨⟨value, split⟩, ?_⟩, ?_⟩
    · intro other fits
      exact longest other (by rw [split]; exact fits)
    · rw [← split, List.drop_left]
  · rintro ⟨found, rfl⟩
    obtain ⟨begins, longest⟩ := Operator.atStart_eq_some_iff.1 found
    have split : op.token ++ t.drop op.token.length = t :=
      (List.prefix_iff_eq_append.1 begins)
    refine ⟨split, fun i hi => absurd hi (Nat.not_lt_zero i), ?_⟩
    intro other fits
    exact longest other (by rw [← split]; exact fits)

/-- A character of the field is one at which no token begins. -/
theorem found_cons_iff {c d : Char} {rest field value : Text} {op : Operator} :
    Found (c :: rest) ⟨d :: field, op, value⟩ ↔
      d = c ∧ Operator.atStart (c :: rest) = none ∧ Found rest ⟨field, op, value⟩ := by
  constructor
  · rintro ⟨text, leftmost, longest⟩
    obtain ⟨same, restText⟩ : d = c ∧ field ++ op.token ++ value = rest := by
      simpa [Expression.text] using text
    have start := Operator.atStart_eq_none_iff.2 (leftmost 0 (Nat.succ_pos _))
    refine ⟨same, start, restText, ?_, longest⟩
    intro i hi
    exact leftmost (i + 1) (Nat.succ_lt_succ hi)
  · rintro ⟨rfl, nothing, text, leftmost, longest⟩
    refine ⟨congrArg (d :: ·) text, ?_, longest⟩
    intro i hi
    cases i with
    | zero => exact Operator.atStart_eq_none_iff.1 nothing
    | succ i => exact leftmost i (Nat.lt_of_succ_lt_succ hi)

theorem not_found_nil (e : Expression) : ¬ Found [] e := by
  intro found
  have parts := congrArg List.length found.text
  simp only [Expression.text, List.length_append, List.length_nil] at parts
  exact e.op.token_ne_nil (List.length_eq_zero_iff.1 (by omega))

/-- Putting a character at the start of a field gives an expression if its field starts with that
character and the rest was there before. -/
theorem map_field_cons_iff {found : Option Expression} {c d : Char} {field value : Text}
    {op : Operator} :
    (found.map fun e => { e with field := c :: e.field }) = some ⟨d :: field, op, value⟩ ↔
      d = c ∧ found = some ⟨field, op, value⟩ := by
  cases found with
  | none => simp
  | some e =>
    obtain ⟨inner, innerOp, innerValue⟩ := e
    simp only [Option.map_some, Option.some.injEq, mk.injEq, List.cons.injEq]
    constructor
    · rintro ⟨⟨rfl, rfl⟩, rfl, rfl⟩
      exact ⟨rfl, rfl, rfl, rfl⟩
    · rintro ⟨rfl, rfl, rfl, rfl⟩
      exact ⟨⟨rfl, rfl⟩, rfl, rfl⟩

/-- The scan finds an expression exactly where it stands in the text. -/
theorem scan_eq_some_iff {t : Text} {e : Expression} : scan t = some e ↔ Found t e := by
  -- On the text: the scan moves on by one character, and so does the end of the field.
  induction t generalizing e with
  | nil => simp [scan, not_found_nil]
  | cons c rest ih =>
    obtain ⟨field, op, value⟩ := e
    cases start : Operator.atStart (c :: rest) with
    | some best =>
      cases field with
      | nil =>
        rw [scan, start, found_unnamed_iff, start]
        constructor
        · intro h
          obtain ⟨rfl, rfl⟩ : best = op ∧ _ = value := by simpa using h
          exact ⟨rfl, rfl⟩
        · rintro ⟨same, rfl⟩
          rw [Option.some.inj same]
      | cons d more => simp [scan, start, found_cons_iff]
    | none =>
      cases field with
      | nil => simp [scan, start, found_unnamed_iff]
      | cons d more =>
        rw [scan, start, found_cons_iff, start, ← ih]
        show (scan rest).map _ = _ ↔ _
        rw [map_field_cons_iff]
        simp

/-- The scan finds something in every text that has a token. -/
theorem exists_scan {t before after : Text} {op : Operator} (h : before ++ op.token ++ after = t) :
    ∃ e, scan t = some e := by
  induction t generalizing before with
  | nil =>
    have parts := congrArg List.length h
    simp only [List.length_append, List.length_nil] at parts
    exact absurd (List.length_eq_zero_iff.1 (by omega)) op.token_ne_nil
  | cons c rest ih =>
    cases start : Operator.atStart (c :: rest) with
    | some best => exact ⟨_, by rw [scan, start]⟩
    | none =>
      cases before with
      | nil => exact absurd ⟨after, h⟩ (Operator.atStart_eq_none_iff.1 start op)
      | cons d more =>
        obtain ⟨e, found⟩ := ih (List.cons.inj h).2
        exact ⟨_, by rw [scan, start, found]; rfl⟩

/-! ## Cuts -/

/-- An expression as a cut of a text at its leftmost token after the first character, which is
the longest one there. -/
structure Cut (item : Text) (e : Expression) : Prop where
  text : e.text = item
  named : e.field ≠ []
  leftmost : ∀ i, 0 < i → i < e.field.length → ∀ op : Operator, ¬ op.token <+: item.drop i
  longest : ∀ op : Operator, op.token <+: e.op.token ++ e.value →
    op.token.length ≤ e.op.token.length

/-- The first character belongs to the field, whatever begins there. -/
theorem cut_cons_iff {c d : Char} {rest field value : Text} {op : Operator} :
    Cut (c :: rest) ⟨d :: field, op, value⟩ ↔ d = c ∧ Found rest ⟨field, op, value⟩ := by
  constructor
  · rintro ⟨text, -, leftmost, longest⟩
    obtain ⟨same, restText⟩ : d = c ∧ field ++ op.token ++ value = rest := by
      simpa [Expression.text] using text
    refine ⟨same, restText, ?_, longest⟩
    intro i hi
    exact leftmost (i + 1) (Nat.succ_pos i) (Nat.succ_lt_succ hi)
  · rintro ⟨rfl, text, leftmost, longest⟩
    refine ⟨congrArg (d :: ·) text, List.cons_ne_nil d field, ?_, longest⟩
    intro i positive hi
    cases i with
    | zero => exact absurd positive (Nat.lt_irrefl 0)
    | succ i => exact leftmost i (Nat.lt_of_succ_lt_succ hi)

theorem not_cut_nil (e : Expression) : ¬ Cut [] e := by
  intro cut
  have parts := congrArg List.length cut.text
  simp only [Expression.text, List.length_append, List.length_nil] at parts
  exact cut.named (List.length_eq_zero_iff.1 (by omega))

/-- An expression is read from a text exactly when it is a cut of the text. -/
theorem read?_eq_some_iff {item : Text} {e : Expression} : read? item = some e ↔ Cut item e := by
  cases item with
  | nil => simp [read?, not_cut_nil]
  | cons c rest =>
    obtain ⟨field, op, value⟩ := e
    cases field with
    | nil =>
      constructor
      · intro h
        simp [read?] at h
      · intro cut
        exact absurd rfl cut.named
    | cons d more =>
      rw [cut_cons_iff, ← scan_eq_some_iff]
      exact map_field_cons_iff

/-- A text has a cut if it has a token after a field of any kind. -/
theorem exists_cut_iff {item : Text} : (∃ e, Cut item e) ↔
    ∃ (field : Text) (op : Operator) (value : Text),
      field ≠ [] ∧ field ++ op.token ++ value = item := by
  constructor
  · rintro ⟨e, cut⟩
    exact ⟨e.field, e.op, e.value, cut.named, cut.text⟩
  · rintro ⟨field, op, value, named, rfl⟩
    cases field with
    | nil => exact absurd rfl named
    | cons c more =>
      obtain ⟨e, found⟩ := exists_scan (rfl : more ++ op.token ++ value = _)
      have read : read? ((c :: more) ++ op.token ++ value) =
          some { e with field := c :: e.field } := by
        show (scan (more ++ op.token ++ value)).map _ = _
        rw [found]
        rfl
      exact ⟨_, read?_eq_some_iff.1 read⟩

/-- Nothing is read from a text exactly when no token begins after its first character. -/
theorem read?_eq_none_iff {item : Text} : read? item = none ↔
    ∀ i, 1 ≤ i → ∀ op : Operator, ¬ op.token <+: item.drop i := by
  have cuts : read? item = none ↔ ¬ ∃ e, Cut item e := by
    simp only [← read?_eq_some_iff]
    cases read? item <;> simp
  rw [cuts, exists_cut_iff]
  constructor
  · -- A token at a position would have the text before it as its field.
    rintro uncut i positive op ⟨value, rest⟩
    refine uncut ⟨item.take i, op, value, fun empty => ?_, ?_⟩
    · rcases List.take_eq_nil_iff.1 empty with rfl | rfl
      · exact absurd positive (Nat.lt_irrefl 0)
      · rw [List.drop_nil] at rest
        exact op.token_ne_nil (List.append_eq_nil_iff.1 rest).1
    · rw [List.append_assoc, rest, List.take_append_drop]
  · rintro nowhere ⟨field, op, value, named, rfl⟩
    apply nowhere field.length (List.length_pos_iff.2 named) op
    rw [List.append_assoc, List.drop_left]
    exact List.prefix_append _ _

/-- The boundary of an expression is the leftmost place after the first character where a token
begins, and the token is the longest that begins there; without such a place there is no
expression. -/
theorem read?_leftmost_longest (item : Text) :
    (∀ (field : Text) (op : Operator) (value : Text),
      read? item = some ⟨field, op, value⟩ ↔
        field ++ op.token ++ value = item ∧ field ≠ [] ∧
          (∀ i, 1 ≤ i → i < field.length → ∀ other : Operator, ¬ other.token <+: item.drop i) ∧
          op.token <+: item.drop field.length ∧
          ∀ other : Operator, other.token <+: item.drop field.length →
            other.token.length ≤ op.token.length) ∧
      (read? item = none ↔ ∀ i, 1 ≤ i → ∀ op : Operator, ¬ op.token <+: item.drop i) := by
  refine ⟨fun field op value => ?_, read?_eq_none_iff⟩
  have after (split : field ++ op.token ++ value = item) :
      item.drop field.length = op.token ++ value := by
    rw [← split, List.append_assoc, List.drop_left]
  rw [read?_eq_some_iff]
  constructor
  · intro cut
    have rest := after cut.text
    refine ⟨cut.text, cut.named, cut.leftmost, ?_, ?_⟩
    · rw [rest]
      exact List.prefix_append _ _
    · rw [rest]
      exact cut.longest
  · rintro ⟨split, named, leftmost, -, longest⟩
    rw [after split] at longest
    exact ⟨split, named, leftmost, longest⟩

/-- The first character is part of the field, and of the tokens at one place the longest counts. -/
example :
    read? "!=!=nullx==y".toList = some ⟨"!=".toList, .isNotNull, "x==y".toList⟩ := by
  decide

/-- A cut stays one when its value is cut short: fewer characters complete no new token. -/
theorem Cut.shorten {item : Text} {e : Expression} (cut : Cut item e) {value : Text}
    (shorter : value <+: e.value) :
    Cut (e.field ++ e.op.token ++ value) { e with value } := by
  obtain ⟨more, whole⟩ : e.field ++ e.op.token ++ value <+: item := by
    rw [← cut.text]
    exact (List.prefix_append_right_inj _).2 shorter
  refine ⟨rfl, cut.named, ?_, ?_⟩
  · intro i positive hi op fits
    apply cut.leftmost i positive hi op
    rw [← whole, List.drop_append]
    exact fits.trans (List.prefix_append _ _)
  · intro op fits
    exact cut.longest op (fits.trans ((List.prefix_append_right_inj _).2 shorter))

end Expression

end Listing
