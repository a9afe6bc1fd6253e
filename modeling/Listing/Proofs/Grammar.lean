import Mathlib
import Listing.Number.Literal
import Listing.Proofs.Numerals

/-!
# The grammar of number literals

What a number literal is, said without a reader: a sign, a mantissa and an exponent, of which only
the mantissa has to be there (`Grammar`), and one line feed may follow (`Line`). The relations carry
the parts of a literal, so that `read?_eq_some_iff` says three things at once: the reader takes
exactly these texts, it finds the parts that the grammar gives, and a text has only one reading.
-/

namespace Listing

/-! ## Digits -/

/-- Decimal digits and nothing else, perhaps of several scripts. -/
def Digits (t : Text) : Prop :=
  ∀ c ∈ t, DecimalDigit c

section
variable {digits : Text}

theorem digits_of_ascii {t : Text} (all : ∀ c ∈ t, c.isDigit = true) : Digits t :=
  fun c hc => isDigit_iff.1 (isDigit_of_ascii (all c hc))

theorem digits_spanDigits (t : Text) : Digits (spanDigits t).1 :=
  fun _ hc => isDigit_iff.1 (isDigit_of_mem_spanDigits hc)

/-- Digits are read up to the first character that is none. -/
theorem Digits.span (all : Digits digits) {rest : Text}
    (stop : ∀ c ∈ rest.head?, ¬ DecimalDigit c) : spanDigits (digits ++ rest) = (digits, rest) :=
  spanDigits_append_of_isDigit (fun c hc => isDigit_iff.2 (all c hc))
    fun c hc => Bool.eq_false_iff.2 fun digit => stop c hc (isDigit_iff.1 digit)

theorem Digits.not_mem (all : Digits digits) {c : Char} (other : ¬ DecimalDigit c) : c ∉ digits :=
  fun mem => other (all c mem)

theorem Digits.unsigned (all : Digits digits) : ∀ c ∈ digits.head?, c ≠ '-' ∧ c ≠ '+' :=
  fun c hc => unsigned_of_isDigit (isDigit_iff.2 (all c (List.mem_of_mem_head? hc)))

end

theorem not_decimalDigit_lineFeed : ¬ DecimalDigit '\n' := by
  decide

theorem Sign.lineFeed_not_mem {sign : Text} {negative : Bool} (h : Sign negative sign) :
    '\n' ∉ sign := by
  cases h <;> decide

namespace NumberLiteral

/-! ## The grammar -/

/-- The texts of a mantissa, with its whole part and its fraction: digits with an optional point and
optional digits after it, or a point and digits. -/
inductive Mantissa : Text → Text → Text → Prop where
  | whole {digits : Text} (present : digits ≠ []) (all : Digits digits) :
      Mantissa digits digits []
  | pointed {digits fraction : Text} (present : digits ≠ []) (all : Digits digits)
      (after : Digits fraction) : Mantissa (digits ++ '.' :: fraction) digits fraction
  | fraction {digits : Text} (present : digits ≠ []) (all : Digits digits) :
      Mantissa ('.' :: digits) [] digits

/-- The texts of an exponent, with its sign and its digits. It may be absent. -/
inductive Exponent : Text → Bool → Text → Prop where
  | absent : Exponent [] false []
  | power {mark : Char} {sign digits : Text} {negative : Bool} (marked : mark = 'e' ∨ mark = 'E')
      (signed : Sign negative sign) (present : digits ≠ []) (all : Digits digits) :
      Exponent (mark :: (sign ++ digits)) negative digits

/-- The texts of a number literal, with its parts. -/
inductive Grammar : Text → NumberLiteral → Prop where
  | intro {sign mantissa exponent : Text} {l : NumberLiteral} (signed : Sign l.negative sign)
      (pointed : Mantissa mantissa l.whole l.fraction)
      (raised : Exponent exponent l.exponentNegative l.exponent) :
      Grammar (sign ++ (mantissa ++ exponent)) l

/-- A number literal, which one line feed may follow. -/
inductive Line : Text → NumberLiteral → Prop where
  | bare {t : Text} {l : NumberLiteral} (grammar : Grammar t l) : Line t l
  | ended {t : Text} {l : NumberLiteral} (grammar : Grammar t l) : Line (t ++ ['\n']) l

/-! ## Exponents -/

section
variable {t whole fraction digits : Text} {negative : Bool}

theorem exponent_of_readExponent? (h : readExponent? t = some (negative, digits)) :
    Exponent t negative digits := by
  cases t with
  | nil =>
    obtain ⟨rfl, rfl⟩ := Prod.mk.inj (Option.some.inj h)
    exact .absent
  | cons mark rest =>
    cases unsigned : readSign rest with
    | mk sign after =>
      simp only [readExponent?, unsigned, Option.ite_none_right_eq_some,
        Option.ite_none_left_eq_some, Bool.or_eq_true, not_or, List.isEmpty_iff, Option.some.injEq,
        Prod.mk.injEq] at h
      obtain ⟨marked, ⟨present, all⟩, rfl, rfl⟩ := h
      obtain ⟨text, signed, rfl⟩ := sign_of_readSign unsigned
      refine .power marked signed present fun c hc => isDigit_iff.1 ?_
      simp only [Bool.not_eq_true', Bool.not_eq_false] at all
      exact List.all_eq_true.1 all c hc

theorem Exponent.readExponent? (h : Exponent t negative digits) :
    readExponent? t = some (negative, digits) := by
  cases h with
  | absent => rfl
  | power marked signed present all =>
    have unsigned := readSign_of_sign signed all.unsigned
    have every : digits.all isDigit = true :=
      List.all_eq_true.2 fun c hc => isDigit_iff.2 (all c hc)
    simp [NumberLiteral.readExponent?, marked, unsigned, present, every]

/-- An exponent does not go on with the mantissa before it. -/
theorem Exponent.boundary (h : Exponent t negative digits) :
    ∀ c ∈ t.head?, ¬ DecimalDigit c ∧ c ≠ '.' := by
  cases h with
  | absent => simp
  | power marked =>
    rintro c ⟨⟩
    rcases marked with rfl | rfl <;> decide

/-! ## Mantissas -/

/-- The digits that are read around a point are a mantissa, if there are any. -/
theorem exists_mantissa_of_readFraction {rest : Text}
    (h : readFraction (spanDigits t).2 = (fraction, rest))
    (some : ¬ ((spanDigits t).1 = [] ∧ fraction = [])) :
    ∃ mantissa, Mantissa mantissa (spanDigits t).1 fraction ∧ t = mantissa ++ rest := by
  have all := digits_spanDigits t
  have split := spanDigits_append t
  generalize (spanDigits t).1 = digits, (spanDigits t).2 = after at h some all split
  unfold readFraction at h
  split at h
  · next more =>
    have decimals := digits_spanDigits more
    have moreSplit := spanDigits_append more
    rw [h] at decimals moreSplit
    cases digits with
    | nil =>
      refine ⟨_, .fraction (fun none => some ⟨rfl, none⟩) decimals, ?_⟩
      simp [← split, ← moreSplit]
    | cons d digits =>
      refine ⟨_, .pointed (List.cons_ne_nil d digits) all decimals, ?_⟩
      simp [← split, ← moreSplit]
  · obtain ⟨rfl, rfl⟩ := Prod.mk.inj h
    exact ⟨digits, .whole (fun none => some ⟨none, rfl⟩) all, split.symm⟩

/-- A mantissa is read up to what does not go on with it. -/
theorem Mantissa.readFraction {mantissa rest : Text} (h : Mantissa mantissa whole fraction)
    (stop : ∀ c ∈ rest.head?, ¬ DecimalDigit c ∧ c ≠ '.') :
    (spanDigits (mantissa ++ rest)).1 = whole ∧
      readFraction (spanDigits (mantissa ++ rest)).2 = (fraction, rest) := by
  have point : ¬ DecimalDigit '.' := by decide
  have digitStop : ∀ c ∈ rest.head?, ¬ DecimalDigit c := fun c hc => (stop c hc).1
  cases h with
  | whole present all =>
    rw [all.span digitStop]
    refine ⟨rfl, ?_⟩
    unfold NumberLiteral.readFraction
    split
    · next more same => exact absurd rfl (stop '.' (congrArg List.head? same)).2
    · rfl
  | pointed present all after =>
    rw [List.append_assoc, List.cons_append, all.span (by simp [point])]
    exact ⟨rfl, after.span digitStop⟩
  | fraction present all =>
    have none : Digits [] := fun _ hc => absurd hc List.not_mem_nil
    have before (after : Text) : spanDigits ('.' :: after) = ([], '.' :: after) :=
      none.span (by simp [point])
    rw [List.cons_append, before]
    exact ⟨rfl, all.span digitStop⟩

theorem Mantissa.not_empty {mantissa : Text} (h : Mantissa mantissa whole fraction) :
    ¬ (whole = [] ∧ fraction = []) := by
  cases h with
  | whole present => exact fun none => present none.1
  | pointed present => exact fun none => present none.1
  | fraction present => exact fun none => present none.2

theorem Mantissa.unsigned {mantissa : Text} (h : Mantissa mantissa whole fraction) (rest : Text) :
    ∀ c ∈ (mantissa ++ rest).head?, c ≠ '-' ∧ c ≠ '+' := by
  cases h with
  | whole present all =>
    rw [List.head?_append_of_ne_nil _ present]
    exact all.unsigned
  | pointed present all =>
    rw [List.append_assoc, List.head?_append_of_ne_nil _ present]
    exact all.unsigned
  | fraction present all =>
    rintro c ⟨⟩
    decide

/-! ## Line ends -/

theorem Exponent.lineFeed_not_mem (h : Exponent t negative digits) : '\n' ∉ t := by
  cases h with
  | absent => exact List.not_mem_nil
  | power marked signed _ all =>
    have digits := all.not_mem not_decimalDigit_lineFeed
    rcases marked with rfl | rfl <;> simp [signed.lineFeed_not_mem, digits]

theorem Mantissa.lineFeed_not_mem (h : Mantissa t whole fraction) : '\n' ∉ t := by
  cases h with
  | whole _ all => exact all.not_mem not_decimalDigit_lineFeed
  | pointed _ all after =>
    simp [all.not_mem not_decimalDigit_lineFeed, after.not_mem not_decimalDigit_lineFeed]
  | fraction _ all => simp [all.not_mem not_decimalDigit_lineFeed]

/-- No literal has a line feed in it. -/
theorem Grammar.lineFeed_not_mem {l : NumberLiteral} (h : Grammar t l) : '\n' ∉ t := by
  cases h with
  | intro signed pointed raised =>
    simp [signed.lineFeed_not_mem, pointed.lineFeed_not_mem, raised.lineFeed_not_mem]

theorem dropLineEnd_of_not_mem (h : '\n' ∉ t) : dropLineEnd t = t := by
  apply if_neg
  exact fun last => h (List.mem_of_getLast? last)

theorem dropLineEnd_append (t : Text) : dropLineEnd (t ++ ['\n']) = t := by
  simp [dropLineEnd]

theorem eq_dropLineEnd_or (t : Text) : t = dropLineEnd t ∨ t = dropLineEnd t ++ ['\n'] := by
  unfold dropLineEnd
  split
  · next last => exact .inr (List.dropLast_append_getLast? _ last).symm
  · exact .inl rfl

end

/-! ## Literals -/

section
variable {t : Text} {l : NumberLiteral}

theorem grammar_of_read? (h : read? t = some l) : Grammar (dropLineEnd t) l := by
  cases signed : readSign (dropLineEnd t) with
  | mk negative unsigned =>
    cases pointed : readFraction (spanDigits unsigned).2 with
    | mk fraction rest =>
      simp only [read?, signed, pointed, Option.ite_none_left_eq_some, Option.map_eq_some_iff,
        Bool.and_eq_true, List.isEmpty_iff] at h
      obtain ⟨some, ⟨exponentNegative, exponent⟩, raised, rfl⟩ := h
      obtain ⟨sign, isSign, split⟩ := sign_of_readSign signed
      obtain ⟨mantissa, isMantissa, rfl⟩ := exists_mantissa_of_readFraction pointed some
      rw [split]
      exact .intro isSign isMantissa (exponent_of_readExponent? raised)

theorem read?_of_grammar (h : Grammar (dropLineEnd t) l) : read? t = some l := by
  generalize same : dropLineEnd t = s at h
  cases h with
  | @intro sign mantissa exponent _ signed pointed raised =>
    obtain ⟨whole, fraction⟩ := pointed.readFraction raised.boundary
    have empty : ¬ (l.whole.isEmpty && l.fraction.isEmpty) = true := by
      simpa using pointed.not_empty
    simp only [read?, same, readSign_of_sign signed (pointed.unsigned exponent), whole, fraction,
      if_neg empty, raised.readExponent?]
    rfl

/-- The reader takes a text for a literal exactly if the text is a line of the grammar, with the
same parts. -/
theorem read?_eq_some_iff : read? t = some l ↔ Line t l := by
  constructor
  · intro h
    have grammar := grammar_of_read? h
    rcases eq_dropLineEnd_or t with same | same
    · rw [same]
      exact .bare grammar
    · rw [same]
      exact .ended grammar
  · intro h
    apply read?_of_grammar
    cases h with
    | bare grammar => rwa [dropLineEnd_of_not_mem grammar.lineFeed_not_mem]
    | ended grammar => rwa [dropLineEnd_append]

end

end NumberLiteral

/-! ## Texts of numbers -/

/-- A text that is a number in the grammar. -/
def NumberText (t : Text) : Prop :=
  ∃ l, NumberLiteral.Line t l

theorem NumberText.read?_eq_none_iff {t : Text} :
    NumberLiteral.read? t = none ↔ ¬ NumberText t := by
  simp [NumberText, ← NumberLiteral.read?_eq_some_iff, Option.eq_none_iff_forall_ne_some]

instance : DecidablePred NumberText :=
  fun t => decidable_of_iff (NumberLiteral.read? t ≠ none) (by
    rw [ne_eq, NumberText.read?_eq_none_iff, not_not])

/-- The point may end a number or begin it, and digits of two scripts may meet. -/
example : ∀ t ∈ ["7.", "-.5", "+1e-3", "\u0663.5E\u0662", "5\n"], NumberText t.toList := by
  decide

/-- A point needs a digit beside it, and an exponent one after it; nothing else may stand there. -/
example : ∀ t ∈ ["", ".", "1e", "1e+", "--1", "1 2", "1_0", "nan", "inf", "5\n\n"],
    ¬ NumberText t.toList := by
  decide

end Listing
