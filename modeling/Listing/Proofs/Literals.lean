import Mathlib
import Listing.Proofs.Decimals
import Listing.Proofs.Grammar

/-!
# Literals and the texts of decimals

A literal in ASCII digits is read from its own text (`NumberLiteral.read?_text`). The text of a
decimal is the text of such a literal, with the value of the decimal: positionally below one, as a
whole number and with a point among the digits, and with an exponent (`spells_decimalText`). So is
the text of an integer (`spells_natText`).
-/

namespace Listing

/-! ## Digits -/

@[simp] theorem digitsValue_nil : digitsValue [] = 0 := rfl

theorem digitsValue_append (s t : Text) :
    digitsValue (s ++ t) = digitsValue s * 10 ^ t.length + digitsValue t := by
  have shifted : ∀ t : Text, ∀ start : Nat,
      t.foldl (fun value c => 10 * value + digitValue c) start =
        start * 10 ^ t.length + digitsValue t := by
    intro t
    induction t with
    | nil => simp [digitsValue]
    | cons c rest ih =>
      intro start
      rw [digitsValue, List.foldl_cons, List.foldl_cons, ih, ih (10 * 0 + _), List.length_cons,
        Nat.pow_succ]
      ring
  rw [digitsValue, List.foldl_append, shifted]
  rfl

theorem digitsValue_zeros (n : Nat) : digitsValue (List.replicate n '0') = 0 := by
  induction n with
  | zero => rfl
  | succ n ih =>
    rw [List.replicate_succ', digitsValue_append, ih]
    decide

/-- The digits of a number without the zeros at its end. -/
theorem natText_eq_significant (n : Nat) : ∃ zeros,
    natText n = ((natText n).reverse.dropWhile (· == '0')).reverse ++ List.replicate zeros '0' := by
  refine ⟨((natText n).reverse.takeWhile (· == '0')).length, ?_⟩
  have only : (natText n).reverse.takeWhile (· == '0') =
      List.replicate ((natText n).reverse.takeWhile (· == '0')).length '0' := by
    apply List.eq_replicate_of_mem
    intro c hc
    exact beq_iff_eq.1 (List.all_eq_true.1 List.all_takeWhile c hc)
  rw [← List.reverse_replicate, ← only, ← List.reverse_append, List.takeWhile_append_dropWhile,
    List.reverse_reverse]

/-! ## Literals -/

/-- A minus for what is negative. -/
def signText (negative : Bool) : Text :=
  if negative then ['-'] else []

theorem sign_signText (negative : Bool) : Sign negative (signText negative) := by
  cases negative with
  | true => exact .minus
  | false => exact .none

namespace NumberLiteral

def fractionPart (l : NumberLiteral) : Text :=
  if l.fraction.isEmpty then [] else '.' :: l.fraction

def exponentPart (l : NumberLiteral) : Text :=
  if l.exponent.isEmpty then [] else ['e', if l.exponentNegative then '-' else '+'] ++ l.exponent

/-- A literal as numbers are written: an exponent has a sign. -/
def text (l : NumberLiteral) : Text :=
  signText l.negative ++ (l.whole ++ (l.fractionPart ++ l.exponentPart))

/-- A literal in ASCII digits with a whole part. An absent exponent has no sign. -/
structure Written (l : NumberLiteral) : Prop where
  whole_ne : l.whole ≠ []
  whole_digits : ∀ c ∈ l.whole, c.isDigit = true
  fraction_digits : ∀ c ∈ l.fraction, c.isDigit = true
  exponent_digits : ∀ c ∈ l.exponent, c.isDigit = true
  no_sign : l.exponent = [] → l.exponentNegative = false

section
variable {l : NumberLiteral}

theorem Written.mantissa (written : l.Written) :
    Mantissa (l.whole ++ l.fractionPart) l.whole l.fraction := by
  have whole := digits_of_ascii written.whole_digits
  unfold fractionPart
  split
  · next none =>
    rw [List.append_nil, List.isEmpty_iff.1 none]
    exact .whole written.whole_ne whole
  · exact .pointed written.whole_ne whole (digits_of_ascii written.fraction_digits)

theorem Written.exponent (written : l.Written) :
    Exponent l.exponentPart l.exponentNegative l.exponent := by
  have all := digits_of_ascii written.exponent_digits
  unfold exponentPart
  cases same : l.exponent with
  | nil =>
    rw [written.no_sign same]
    exact .absent
  | cons d rest =>
    rw [same] at all
    cases l.exponentNegative with
    | true => exact .power (.inl rfl) .minus (List.cons_ne_nil d rest) all
    | false => exact .power (.inl rfl) .plus (List.cons_ne_nil d rest) all

/-- The text of a written literal is in the grammar, with the parts of the literal. -/
theorem Written.grammar (written : l.Written) : Grammar l.text l := by
  rw [text, ← List.append_assoc l.whole]
  exact .intro (sign_signText l.negative) written.mantissa written.exponent

/-- A written literal is read from its text. -/
theorem read?_text (written : l.Written) : read? l.text = some l :=
  read?_eq_some_iff.2 (.bare written.grammar)

/-- The value of a literal depends on its digits up to zeros at their end. -/
theorem value_eq {digits : Text} (zeros : Nat) {exponent : Int}
    (coefficient : digitsValue (l.whole ++ l.fraction) = digitsValue digits * 10 ^ zeros)
    (place : l.power - l.fraction.length + zeros = exponent) :
    l.value = Binary64.ofDecimal l.negative (digitsValue digits) exponent := by
  rw [value, coefficient, Binary64.ofDecimal_mul_ten_pow, place]

end

end NumberLiteral

/-! ## Decimals -/

/-- Under a sign, a text is that of a literal that is read as a decimal. -/
def Spells (negative : Bool) (t : Text) (coefficient : Nat) (exponent : Int) : Prop :=
  ∃ l : NumberLiteral, l.Written ∧ l.text = signText negative ++ t ∧
    l.value = Binary64.ofDecimal negative coefficient exponent

theorem isDigit_of_mem_zeros {n : Nat} {c : Char} (h : c ∈ List.replicate n '0') :
    c.isDigit = true := by
  rw [List.eq_of_mem_replicate h]
  rfl

theorem digitsValue_append_zeros (digits : Text) (n : Nat) :
    digitsValue (digits ++ List.replicate n '0') = digitsValue digits * 10 ^ n := by
  rw [digitsValue_append, digitsValue_zeros, List.length_replicate, Nat.add_zero]

theorem digitsValue_zeros_append (n : Nat) (digits : Text) :
    digitsValue (List.replicate n '0' ++ digits) = digitsValue digits := by
  rw [digitsValue_append, digitsValue_zeros, Nat.zero_mul, Nat.zero_add]

section
variable (negative : Bool) {digits : Text} (ascii : ∀ c ∈ digits, c.isDigit = true)
include ascii

theorem spells_belowOne (present : digits ≠ []) (zeros : Nat) :
    Spells negative (['0', '.'] ++ List.replicate zeros '0' ++ digits)
      (digitsValue digits) (-(zeros + digits.length : Nat)) := by
  have fraction : ∀ c ∈ List.replicate zeros '0' ++ digits, c.isDigit = true :=
    fun c hc => (List.mem_append.1 hc).elim isDigit_of_mem_zeros (ascii c)
  refine ⟨⟨negative, ['0'], List.replicate zeros '0' ++ digits, false, []⟩,
    ⟨by simp, by simp, fraction, by simp, by simp⟩, ?text, ?value⟩
  case text =>
    simp [NumberLiteral.text, NumberLiteral.fractionPart, NumberLiteral.exponentPart, present]
  case value =>
    apply NumberLiteral.value_eq 0
    · rw [← List.append_assoc, show ['0'] = List.replicate 1 '0' from rfl,
        List.replicate_append_replicate, digitsValue_zeros_append, Nat.pow_zero, Nat.mul_one]
    · simp [NumberLiteral.power]

theorem spells_whole (present : digits ≠ []) (zeros : Nat) :
    Spells negative (digits ++ List.replicate zeros '0' ++ ['.', '0'])
      (digitsValue digits) zeros := by
  have whole : ∀ c ∈ digits ++ List.replicate zeros '0', c.isDigit = true :=
    fun c hc => (List.mem_append.1 hc).elim (ascii c) isDigit_of_mem_zeros
  refine ⟨⟨negative, digits ++ List.replicate zeros '0', ['0'], false, []⟩,
    ⟨by simp [present], whole, by simp, by simp, by simp⟩, ?text, ?value⟩
  case text =>
    simp [NumberLiteral.text, NumberLiteral.fractionPart, NumberLiteral.exponentPart]
  case value =>
    apply NumberLiteral.value_eq (zeros + 1)
    · rw [List.append_assoc, show ['0'] = List.replicate 1 '0' from rfl,
        List.replicate_append_replicate, digitsValue_append_zeros]
    · simp [NumberLiteral.power]

/-- Digits with a point in them, and perhaps an exponent after them. -/
theorem spells_cut (present : digits ≠ []) (cut : Nat) (inside : 0 < cut ∧ cut ≤ digits.length)
    (below : Bool) (power : Text) (powerAscii : ∀ c ∈ power, c.isDigit = true)
    (noSign : power = [] → below = false) :
    Spells negative
      (digits.take cut ++ ((if (digits.drop cut).isEmpty then [] else '.' :: digits.drop cut) ++
        if power.isEmpty then [] else ['e', if below then '-' else '+'] ++ power))
      (digitsValue digits)
      ((if below then -(digitsValue power : Int) else digitsValue power) + cut -
        digits.length) := by
  refine ⟨⟨negative, digits.take cut, digits.drop cut, below, power⟩,
    ⟨?_, fun c hc => ascii c (List.mem_of_mem_take hc),
      fun c hc => ascii c (List.mem_of_mem_drop hc), powerAscii, noSign⟩, rfl, ?value⟩
  · simp [present, Nat.ne_of_gt inside.1]
  case value =>
    apply NumberLiteral.value_eq 0
    · rw [List.take_append_drop, Nat.pow_zero, Nat.mul_one]
    · dsimp only [NumberLiteral.power]
      rw [List.length_drop]
      omega

theorem spells_positionalText (present : digits ≠ []) (point : Int) :
    Spells negative (positionalText digits point) (digitsValue digits)
      (point + 1 - digits.length) := by
  unfold positionalText
  split
  · next below =>
    have spelled := spells_belowOne negative ascii present (-point - 1).toNat
    rwa [show -(((-point - 1).toNat + digits.length : Nat) : Int) = point + 1 - digits.length by
      omega] at spelled
  · next above =>
    dsimp only
    split
    · next few =>
      have spelled := spells_whole negative ascii present (point.toNat + 1 - digits.length)
      rwa [show ((point.toNat + 1 - digits.length : Nat) : Int) = point + 1 - digits.length by
        omega] at spelled
    · next many =>
      have rest : (digits.drop (point.toNat + 1)).isEmpty = false := by
        rw [List.isEmpty_eq_false_iff, Ne, List.drop_eq_nil_iff]
        exact many
      have spelled := spells_cut negative ascii present (point.toNat + 1) ⟨by omega, by omega⟩
        false [] nofun fun _ => rfl
      simpa [rest, Int.max_eq_left (Int.not_lt.1 above)] using spelled

theorem spells_exponentText (present : digits ≠ []) (point : Int) :
    Spells negative (exponentText digits point) (digitsValue digits)
      (point + 1 - digits.length) := by
  have size := List.length_pos_iff.2 present
  obtain ⟨power, same⟩ : ∃ power, power =
    List.replicate (2 - (natText point.natAbs).length) '0' ++ natText point.natAbs := ⟨_, rfl⟩
  have powerAscii : ∀ c ∈ power, c.isDigit = true := by
    rw [same]
    exact fun c hc => (List.mem_append.1 hc).elim isDigit_of_mem_zeros isDigit_of_mem_natText
  have worth : digitsValue power = point.natAbs := by
    rw [same, digitsValue_zeros_append, digitsValue_natText]
  have some : power ≠ [] := by
    rw [same]
    exact fun none => natText_ne_nil _ (List.append_eq_nil_iff.1 none).2
  have spelled := spells_cut negative ascii present 1 ⟨by decide, size⟩ (decide (point < 0)) power
    powerAscii fun none => absurd none some
  have signed : (if decide (point < 0) then -(digitsValue power : Int) else digitsValue power) =
      point := by
    rw [worth]
    simp only [decide_eq_true_eq]
    split <;> omega
  rw [signed, List.isEmpty_eq_false_iff.2 some] at spelled
  simpa [exponentText, same] using spelled

end

/-- The text of a decimal spells it. -/
theorem spells_decimalText (negative : Bool) {coefficient : Nat} (some : coefficient ≠ 0)
    (exponent : Int) : Spells negative (decimalText coefficient exponent) coefficient exponent := by
  obtain ⟨zeros, split⟩ := natText_eq_significant coefficient
  unfold decimalText
  dsimp only
  generalize ((natText coefficient).reverse.dropWhile (· == '0')).reverse = significant at split ⊢
  have worth : digitsValue significant * 10 ^ zeros = coefficient := by
    rw [← digitsValue_append_zeros, ← split, digitsValue_natText]
  have present : significant ≠ [] := by
    rintro rfl
    apply some
    rw [← worth, digitsValue_nil, Nat.zero_mul]
  have ascii : ∀ c ∈ significant, c.isDigit = true := by
    intro c hc
    apply isDigit_of_mem_natText (n := coefficient)
    rw [split]
    exact List.mem_append_left _ hc
  have length : (natText coefficient).length = significant.length + zeros := by
    rw [split, List.length_append, List.length_replicate]
  have size := List.length_pos_iff.2 present
  -- The digits without their zeros are the coefficient at a later place.
  suffices Spells negative _ (digitsValue significant) (exponent + zeros) by
    rwa [Spells, ← Binary64.ofDecimal_mul_ten_pow, worth] at this
  have place : exponent + zeros =
      (natText coefficient).length + exponent - 1 + 1 - significant.length := by
    omega
  rw [place]
  split
  · exact spells_positionalText negative ascii present _
  · exact spells_exponentText negative ascii present _

/-- The digits of an integer spell it, without a point. -/
theorem spells_natText (negative : Bool) (n : Nat) : Spells negative (natText n) n 0 := by
  have size := List.length_pos_iff.2 (natText_ne_nil n)
  have spelled := spells_cut negative (fun c => isDigit_of_mem_natText) (natText_ne_nil n)
    (natText n).length ⟨size, Nat.le_refl _⟩ false [] nofun fun _ => rfl
  simpa [digitsValue_natText] using spelled

theorem intText_eq (i : Int) : intText i = signText (i < 0) ++ natText i.natAbs := by
  cases i with
  | ofNat n => rfl
  | negSucc n => simp [intText, signText]

/-- A text that spells a decimal is read as it. -/
theorem Spells.read? {negative : Bool} {t : Text} {coefficient : Nat} {exponent : Int}
    (h : Spells negative t coefficient exponent) :
    ∃ l, NumberLiteral.read? (signText negative ++ t) = some l ∧
      l.value = Binary64.ofDecimal negative coefficient exponent := by
  obtain ⟨l, written, text, value⟩ := h
  exact ⟨l, text ▸ NumberLiteral.read?_text written, value⟩

end Listing
