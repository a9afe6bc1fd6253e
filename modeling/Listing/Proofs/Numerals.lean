import Mathlib
import Listing.Request

/-!
# Numerals

An integer stands at the start of a text if blanks, at most one sign and then all the digits there
are lead to it, and this is the integer that is read (`leadingInteger_eq_some_iff`).

An integer is written in ASCII digits, and its text is read back as the integer. A number that
was read from a text has no more digits than the text, so it can be written again.
`parsePositive_intText` and `writable_of_parsePositive` are the two directions.
-/

namespace Listing

/-! ## Digits -/

/-- A decimal digit: one of the ten characters from the zero of a script on. -/
def DecimalDigit (c : Char) : Prop :=
  ∃ base ∈ digitZeros, base ≤ c.toNat ∧ c.toNat < base + 10

theorem isDigit_iff {c : Char} : isDigit c = true ↔ DecimalDigit c := by
  simp [isDigit, digitValue?, DecimalDigit]

instance : DecidablePred DecimalDigit :=
  fun _ => decidable_of_iff _ isDigit_iff

/-- The ten digits of ASCII are worth their places after the zero. -/
theorem digitValue?_of_ascii {c : Char} (h : c.isDigit = true) :
    digitValue? c = some (c.toNat - 48) := by
  have ascii : c.toNat < 128 := by
    have bound : c.toNat ≤ 57 := by simp [Char.isDigit, UInt32.le_iff_toNat_le] at h; exact h.2
    omega
  revert h
  exact ascii_forall (P := fun c => c.isDigit = true → digitValue? c = some (c.toNat - 48))
    (by decide) ascii

theorem isDigit_of_ascii {c : Char} (h : c.isDigit = true) : isDigit c = true := by
  rw [isDigit, digitValue?_of_ascii h]
  rfl

/-- No digit of any script is a blank. -/
theorem isBlank_of_isDigit {c : Char} (h : isDigit c = true) : isBlank c = false := by
  have apart : ∀ base ∈ digitZeros, ∀ range ∈ blankRanges,
      base + 10 ≤ range.1 ∨ range.2 < base := by
    decide
  obtain ⟨base, listed, within⟩ := isDigit_iff.1 h
  rw [isBlank, Bool.eq_false_iff]
  intro blank
  obtain ⟨range, hrange, lower, upper⟩ := (inRanges_iff _ _).1 blank
  have := apart base listed range hrange
  omega

/-- No digit of any script is a sign. -/
theorem unsigned_of_isDigit {c : Char} (h : isDigit c = true) : c ≠ '-' ∧ c ≠ '+' := by
  refine ⟨?minus, ?plus⟩
  case minus =>
    rintro rfl
    exact absurd h (by decide)
  case plus =>
    rintro rfl
    exact absurd h (by decide)

theorem digitValue_lt_ten (c : Char) : digitValue c < 10 := by
  unfold digitValue
  cases found : digitValue? c with
  | none => decide
  | some n => exact digitValue?_lt_ten found

theorem isDigit_of_mem_natText {n : Nat} {c : Char} (h : c ∈ natText n) : c.isDigit = true :=
  Nat.isDigit_of_mem_toDigits (by decide) (by decide) h

theorem natText_ne_nil (n : Nat) : natText n ≠ [] :=
  Nat.toDigits_ne_nil

/-- There are integers with more digits than are read and written. -/
theorem digitLimit_lt_length : digitLimit < (natText (10 ^ digitLimit)).length := by
  apply Nat.lt_of_not_le
  intro few
  exact Nat.lt_irrefl _ ((Nat.length_toDigits_le_iff (by decide) (by decide)).1 few)

theorem all_isDigit_natText (n : Nat) : ∀ c ∈ natText n, isDigit c = true :=
  fun _ hc => isDigit_of_ascii (isDigit_of_mem_natText hc)

/-- The digits of a number are worth the number. -/
theorem digitsValue_natText (n : Nat) : digitsValue (natText n) = n := by
  have digits : ∀ t : Text, (∀ c ∈ t, c.isDigit = true) → ∀ start : Nat,
      t.foldl (fun value c => 10 * value + digitValue c) start = Nat.ofDigitChars 10 t start := by
    intro t
    induction t with
    | nil => simp
    | cons c rest ih =>
      intro all start
      have value : digitValue c = c.toNat - '0'.toNat := by
        rw [digitValue, digitValue?_of_ascii (all c List.mem_cons_self)]
        rfl
      rw [List.foldl_cons, Nat.ofDigitChars_cons, value]
      exact ih (fun d hd => all d (List.mem_cons_of_mem c hd)) _
  rw [digitsValue, digits (natText n) (fun c => isDigit_of_mem_natText) 0]
  exact Nat.ofDigitChars_ten_toDigits

/-- Digits are worth less than the next power of ten. -/
theorem digitsValue_lt (digits : Text) : digitsValue digits < 10 ^ digits.length := by
  have bound : ∀ t : Text, ∀ start : Nat,
      t.foldl (fun value c => 10 * value + digitValue c) start < 10 ^ t.length * (start + 1) := by
    intro t
    induction t with
    | nil => simp
    | cons c rest ih =>
      intro start
      have digit := digitValue_lt_ten c
      calc (c :: rest).foldl (fun value c => 10 * value + digitValue c) start
          < 10 ^ rest.length * (10 * start + digitValue c + 1) := ih _
        _ ≤ 10 ^ rest.length * (10 * (start + 1)) := Nat.mul_le_mul_left _ (by omega)
        _ = 10 ^ (c :: rest).length * (start + 1) := by
          rw [List.length_cons, Nat.pow_succ, Nat.mul_assoc]
  simpa [digitsValue] using bound digits 0

/-- The leading digits end where no digit follows. -/
theorem spanDigits_append_of_isDigit {digits rest : Text} (all : ∀ c ∈ digits, isDigit c = true)
    (stop : ∀ c ∈ rest.head?, isDigit c = false) :
    spanDigits (digits ++ rest) = (digits, rest) := by
  rw [spanDigits, List.takeWhile_append_of_pos all, List.dropWhile_append_of_pos all]
  cases rest with
  | nil => simp
  | cons c more =>
    have halt : isDigit c = false := stop c rfl
    simp [halt]

/-! ## The integer at the start of a text -/

/-- The sign of an integer, which may be absent. -/
inductive Sign : Bool → Text → Prop where
  | none : Sign false []
  | plus : Sign false ['+']
  | minus : Sign true ['-']

/-- The sign and the digits of the integer at the start of a text: only blanks stand before it, and
no further digit follows. -/
inductive Leads : Text → Bool → Text → Prop where
  | intro {blanks sign digits rest : Text} {negative : Bool}
      (blank : ∀ c ∈ blanks, isBlank c = true) (signed : Sign negative sign)
      (present : digits ≠ []) (all : ∀ c ∈ digits, isDigit c = true)
      (stop : ∀ c ∈ rest.head?, isDigit c = false) :
      Leads (blanks ++ (sign ++ (digits ++ rest))) negative digits

theorem sign_of_readSign {t rest : Text} {negative : Bool}
    (h : NumberLiteral.readSign t = (negative, rest)) :
    ∃ sign, Sign negative sign ∧ t = sign ++ rest := by
  unfold NumberLiteral.readSign at h
  split at h
  · obtain ⟨rfl, rfl⟩ := Prod.mk.inj h
    exact ⟨_, .minus, rfl⟩
  · obtain ⟨rfl, rfl⟩ := Prod.mk.inj h
    exact ⟨_, .plus, rfl⟩
  · obtain ⟨rfl, rfl⟩ := Prod.mk.inj h
    exact ⟨_, .none, rfl⟩

/-- A sign is read off what does not begin with one. -/
theorem readSign_of_sign {sign rest : Text} {negative : Bool} (signed : Sign negative sign)
    (unsigned : ∀ c ∈ rest.head?, c ≠ '-' ∧ c ≠ '+') :
    NumberLiteral.readSign (sign ++ rest) = (negative, rest) := by
  cases signed with
  | minus => rfl
  | plus => rfl
  | none =>
    show NumberLiteral.readSign rest = _
    unfold NumberLiteral.readSign
    split
    · exact absurd rfl (unsigned '-' rfl).1
    · exact absurd rfl (unsigned '+' rfl).2
    · rfl

/-- A sign or a digit ends the blanks before it. -/
theorem trimStart_of_sign {blanks sign rest : Text} {negative : Bool} {c : Char}
    (blank : ∀ c ∈ blanks, isBlank c = true) (signed : Sign negative sign)
    (digit : isDigit c = true) : trimStart (blanks ++ (sign ++ c :: rest)) = sign ++ c :: rest := by
  rw [trimStart, List.dropWhile_append_of_pos blank]
  cases signed with
  | none => exact List.dropWhile_cons_of_neg (by simp [isBlank_of_isDigit digit])
  | plus => exact List.dropWhile_cons_of_neg (by decide)
  | minus => exact List.dropWhile_cons_of_neg (by decide)

namespace Request

/-- The reader finds the integer that stands at the start, and nothing else. -/
theorem leadingInteger_eq_some_iff {t digits : Text} {negative : Bool} :
    leadingInteger t = some (negative, digits) ↔ Leads t negative digits := by
  constructor
  · intro h
    cases unsigned : NumberLiteral.readSign (trimStart t) with
    | mk sign rest =>
      simp only [leadingInteger, unsigned, Option.ite_none_left_eq_some, List.isEmpty_iff,
        Option.some.injEq, Prod.mk.injEq] at h
      obtain ⟨present, rfl, rfl⟩ := h
      obtain ⟨text, signed, split⟩ := sign_of_readSign unsigned
      have whole : t = t.takeWhile isBlank ++
          (text ++ ((spanDigits rest).1 ++ (spanDigits rest).2)) := by
        rw [spanDigits_append, ← split, trimStart, List.takeWhile_append_dropWhile]
      rw [whole]
      refine .intro (fun c hc => List.all_eq_true.1 List.all_takeWhile c hc) signed present
        (fun c hc => isDigit_of_mem_spanDigits hc) fun c hc => ?_
      have stop := List.head?_dropWhile_not isDigit rest
      rw [show (List.dropWhile isDigit rest).head? = some c from hc] at stop
      exact stop
  · rintro ⟨blank, signed, present, all, stop⟩
    have spanned := spanDigits_append_of_isDigit all stop
    cases digits with
    | nil => exact absurd rfl present
    | cons d more =>
      have digit : isDigit d = true := all d List.mem_cons_self
      rw [List.cons_append] at spanned ⊢
      have unsigned (after : Text) : ∀ c ∈ (d :: after).head?, c ≠ '-' ∧ c ≠ '+' := by
        rintro c ⟨⟩
        exact unsigned_of_isDigit digit
      rw [leadingInteger, trimStart_of_sign blank signed digit,
        readSign_of_sign signed (unsigned _)]
      simp only [spanned]
      rfl

/-- Digits are an integer that leads. -/
theorem leads_natText (n : Nat) : Leads (natText n) false (natText n) := by
  have leads : Leads ([] ++ ([] ++ (natText n ++ []))) false (natText n) :=
    .intro (by simp) .none (natText_ne_nil n) (all_isDigit_natText n) (by simp)
  simpa using leads

theorem leadingInteger_natText (n : Nat) :
    leadingInteger (natText n) = some (false, natText n) :=
  leadingInteger_eq_some_iff.2 (leads_natText n)

/-- The text of an integer begins with its sign and its digits. -/
theorem leadingInteger_intText (n : Int) :
    ∃ negative, leadingInteger (intText n) = some (negative, natText n.natAbs) := by
  cases n with
  | ofNat k => exact ⟨false, leadingInteger_natText k⟩
  | negSucc k =>
    have leads : Leads ([] ++ (['-'] ++ (natText (k + 1) ++ []))) true (natText (k + 1)) :=
      .intro (by simp) .minus (natText_ne_nil _) (all_isDigit_natText _) (by simp)
    rw [List.append_nil] at leads
    exact ⟨true, leadingInteger_eq_some_iff.2 leads⟩

/-! ## Integers of a request -/

/-- The integer that a sign and digits write. -/
def signed (negative : Bool) (digits : Text) : Int :=
  if negative then -digitsValue digits else digitsValue digits

theorem natAbs_signed (negative : Bool) (digits : Text) :
    (signed negative digits).natAbs = digitsValue digits := by
  cases negative <;> simp [signed]

/-- What is read without a failure is the integer at the start, if there is one. -/
theorem parseInt_cases {t : Text} {n : Option Int} (h : parseInt t = .ok n) :
    leadingInteger t = none ∧ n = none ∨
      ∃ negative digits, leadingInteger t = some (negative, digits) ∧
        digits.length ≤ digitLimit ∧ n = some (signed negative digits) := by
  unfold parseInt at h
  cases leading : leadingInteger t with
  | none =>
    rw [leading] at h
    exact .inl ⟨rfl, (Except.ok.inj h).symm⟩
  | some found =>
    obtain ⟨negative, digits⟩ := found
    rw [leading] at h
    by_cases long : digitLimit < digits.length
    · simp [long] at h
    · have written : some (signed negative digits) = n := by simpa [long, signed] using h
      exact .inr ⟨negative, digits, rfl, Nat.not_lt.1 long, written.symm⟩

/-- A positive integer that can be written is read back from its text. -/
theorem parsePositive_intText {n : Int} (positive : 1 ≤ n)
    (writable : (Number.whole n).writable = true) : parsePositive (intText n) = .ok (some n) := by
  obtain ⟨k, rfl⟩ := Int.eq_ofNat_of_zero_le (Int.le_trans (by decide) positive)
  have short : (natText k).length ≤ digitLimit := by
    simpa [Number.writable] using writable
  have leading : leadingInteger (intText k) = some (false, natText k) := leadingInteger_natText k
  simp [parsePositive, parseInt, leading, Nat.not_lt.2 short, digitsValue_natText, Except.map,
    positive]

/-- A positive integer that was read has few enough digits to be written. -/
theorem writable_of_parsePositive {t : Text} {n : Int} (h : parsePositive t = .ok (some n)) :
    1 ≤ n ∧ (Number.whole n).writable = true := by
  obtain ⟨read, parsed, kept⟩ := map_eq_ok_iff.1 h
  obtain ⟨rfl, positive⟩ := Option.filter_eq_some_iff.1 kept
  refine ⟨by simpa using positive, ?_⟩
  obtain ⟨-, none⟩ | ⟨negative, digits, -, few, same⟩ := parseInt_cases parsed
  · cases none
  · obtain rfl := Option.some.inj same
    -- Leading zeros are lost, so the number may have fewer digits than were read, never more.
    have shorter : (natText (signed negative digits).natAbs).length ≤ digitLimit := by
      apply (Nat.length_toDigits_le_iff (by decide) (by decide)).2
      rw [natAbs_signed]
      exact Nat.lt_of_lt_of_le (digitsValue_lt digits) (Nat.pow_le_pow_right (by decide) few)
    simpa [Number.writable] using shorter

end Request

end Listing
