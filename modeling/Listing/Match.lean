import Listing.Clause
import Listing.Text.Lower
import Listing.Value.Text

/-!
# Matching records

Filters tested against records in memory. A dictionary has members and any other value has
attributes; what is missing reads as nothing. Nothing equals only nothing and is in no order with
anything. Numbers are compared by value, values of two kinds by their texts, and a date or moment
is ordered by its text. A test that needs a text stops at an integer that is too long to be
written.
-/

namespace Listing

/-- What a value that is no dictionary has under a name. -/
abbrev Attributes := Value → Text → Option Value

namespace Value

/-- The attributes of objects that are made of their members; no other value has any. -/
def fields : Attributes
  | .object members, name => members.lookup name
  | _, _ => none

section
variable (attributes : Attributes)

/-- The member of a dictionary or the attribute of another value. Nothing is not asked for
any. -/
def member? (v : Value) (name : Text) : Option Value :=
  match v with
  | .null => none
  | .dict members => members.lookup name
  | v => attributes v name

/-- The value at the end of a path of names, nothing if a step is missing. -/
def follow (v : Value) : List Text → Value
  | [] => v
  | name :: rest =>
    match v.member? attributes name with
    | some w => follow w rest
    | none => .null

def valueAt (record : Value) (path : Text) : Value :=
  record.follow attributes (path.splitOn '.')

end

/-- The text of a value for comparison: the items of a list stand with commas between them. -/
def comparedText : Value → Text
  | .list items => joinWith [','] (items.map toText)
  | v => v.toText

/-- The text of a value for comparison, in lower case if case is ignored. -/
def foldedText (ignoresCase : Bool) (v : Value) : Text :=
  if ignoresCase then lower v.comparedText else v.comparedText

/-- Whether two values are equal for a filter. Truth values and values of two kinds are
compared by their texts, values of one kind as they are unless case is ignored. -/
def equals (actual expected : Value) (ignoresCase : Bool) : Bool :=
  if actual.isNull || expected.isNull then actual.isNull && expected.isNull
  else if actual.isFlag || expected.isFlag then actual.comparedText = expected.comparedText
  else if actual.kind = expected.kind && !ignoresCase then actual.same expected
  else actual.foldedText ignoresCase = expected.foldedText ignoresCase

/-- The text by which a value is ordered. -/
def orderText : Value → Text
  | .date iso | .moment iso => iso
  | v => v.comparedText

end Value

def Comparison.holdsOfNumbers : Comparison → Number → Number → Bool
  | .greaterThan, a, b => b.less a
  | .greaterOrEqual, a, b => b.atMost a
  | .lessThan, a, b => a.less b
  | _, a, b => a.atMost b

def Comparison.holdsOfTexts : Comparison → Text → Text → Bool
  | .greaterThan, a, b => precedes b a
  | .greaterOrEqual, a, b => !precedes a b
  | .lessThan, a, b => precedes a b
  | _, a, b => !precedes b a

/-- Whether two values are in an order. -/
def Comparison.holds (kind : Comparison) (actual expected : Value) : Bool :=
  match actual, expected with
  | .null, _ | _, .null => false
  | .number a, .number b => kind.holdsOfNumbers a b
  | a, b => kind.holdsOfTexts a.orderText b.comparedText

/-- Whether a text stands in another: anywhere, at its start, or at its end. -/
def Comparison.finds (kind : Comparison) (needle text : Text) : Bool :=
  match kind with
  | .contains => occursIn needle text
  | .startsWith => needle.isPrefixOf text
  | _ => needle.isSuffixOf text

/-- Whether a clause holds of a value under an operator's comparison. -/
def FilterClause.holdsFor (c : FilterClause) (kind : Comparison) (actual : Value) : Bool :=
  match kind with
  | .isNull => actual.isNull
  | .isNotNull => !actual.isNull
  | .equal => actual.equals c.value c.ignoresCase.truthy
  | .notEqual => !actual.equals c.value c.ignoresCase.truthy
  | .greaterThan | .greaterOrEqual | .lessThan | .lessOrEqual => kind.holds actual c.value
  | .contains | .startsWith | .endsWith =>
    let ignoresCase := c.ignoresCase.truthy
    if actual.isNull then c.negated.truthy
    else
      kind.finds (c.value.foldedText ignoresCase) (actual.foldedText ignoresCase)
        != c.negated.truthy

/-- Whether a clause holds of a value. A clause without an operator of the grammar holds of
nothing. -/
def FilterClause.accepts (c : FilterClause) (actual : Value) : Bool :=
  match Operator.ofToken? c.token with
  | some op => c.holdsFor op.comparison actual
  | none => false

/-! ## Verdicts -/

/-- A verdict that needs the texts of two values. -/
def onTexts (actual value : Value) (verdict : Bool) : Except Failure Bool :=
  if actual.writable && value.writable then .ok verdict else .error .tooLongToWrite

/-- A verdict on two values that may go by their texts. -/
def verdictOn (byTexts : Bool) (actual value : Value) (verdict : Bool) : Except Failure Bool :=
  if byTexts then onTexts actual value verdict else .ok verdict

/-- Both of two verdicts. The second is only asked for if the first is that something holds. -/
def andAlso (first second : Except Failure Bool) : Except Failure Bool := do
  if ← first then second else return false

/-- Whether equality looks at the texts of two values. -/
def Value.equatedByTexts (actual expected : Value) (ignoresCase : Bool) : Bool :=
  !actual.isNull && !expected.isNull &&
    (actual.isFlag || expected.isFlag || actual.kind ≠ expected.kind || ignoresCase)

/-- Whether an order looks at the texts of two values. -/
def Value.orderedByTexts (actual expected : Value) : Bool :=
  !actual.isNull && !expected.isNull && !(actual.isNumber && expected.isNumber)

/-- Whether a comparison with a clause's value needs the texts of both values. -/
def FilterClause.needsTextsFor (c : FilterClause) (kind : Comparison) (actual : Value) : Bool :=
  match kind with
  | .isNull | .isNotNull => false
  | .equal | .notEqual => actual.equatedByTexts c.value c.ignoresCase.truthy
  | .greaterThan | .greaterOrEqual | .lessThan | .lessOrEqual => actual.orderedByTexts c.value
  | .contains | .startsWith | .endsWith => !actual.isNull

def FilterClause.needsTexts (c : FilterClause) (actual : Value) : Bool :=
  match Operator.ofToken? c.token with
  | some op => c.needsTextsFor op.comparison actual
  | none => false

/-- The verdict of a clause on a value, unless it needs a text that cannot be written. -/
def FilterClause.evaluate (c : FilterClause) (actual : Value) : Except Failure Bool :=
  verdictOn (c.needsTexts actual) actual c.value (c.accepts actual)

/-- The verdict of filters on a record: each clause is tested until one does not hold. -/
def evaluate (attributes : Attributes) (filters : List FilterClause) (record : Value) :
    Except Failure Bool :=
  match filters with
  | [] => .ok true
  | c :: rest =>
    andAlso (c.evaluate (record.valueAt attributes c.field)) (evaluate attributes rest record)

section
variable {first second : Except Failure Bool} {actual value : Value} {verdict b : Bool}

@[simp] theorem true_andAlso (v : Except Failure Bool) : andAlso (.ok true) v = v := rfl

@[simp] theorem andAlso_true (v : Except Failure Bool) : andAlso v (.ok true) = v := by
  cases v with
  | error failure => rfl
  | ok b => cases b <;> rfl

theorem andAlso_assoc (first second third : Except Failure Bool) :
    andAlso (andAlso first second) third = andAlso first (andAlso second third) := by
  cases first with
  | error failure => rfl
  | ok b => cases b <;> rfl

theorem andAlso_eq_true_iff :
    andAlso first second = .ok true ↔ first = .ok true ∧ second = .ok true := by
  cases first with
  | error failure => simp [andAlso, bind, Except.bind]
  | ok b =>
    cases b with
    | false => simp [andAlso, bind, Except.bind, pure, Except.pure]
    | true => simp

theorem onTexts_eq_ok_iff :
    onTexts actual value verdict = .ok b ↔
      (actual.writable = true ∧ value.writable = true) ∧ verdict = b := by
  unfold onTexts
  cases actual.writable <;> cases value.writable <;> simp

theorem onTexts_of_writable (written : actual.writable = true) (short : value.writable = true)
    (verdict : Bool) : onTexts actual value verdict = .ok verdict :=
  onTexts_eq_ok_iff.2 ⟨⟨written, short⟩, rfl⟩

theorem map_verdictOn (byTexts : Bool) (f : Bool → Bool) :
    (verdictOn byTexts actual value verdict).map f =
      verdictOn byTexts actual value (f verdict) := by
  unfold verdictOn onTexts
  split
  · split <;> rfl
  · rfl

theorem evaluate_append (attributes : Attributes) (before after : List FilterClause)
    (record : Value) : evaluate attributes (before ++ after) record =
      andAlso (evaluate attributes before record) (evaluate attributes after record) := by
  induction before with
  | nil => rfl
  | cons c rest ih => rw [List.cons_append, evaluate, evaluate, ih, andAlso_assoc]

end

end Listing
