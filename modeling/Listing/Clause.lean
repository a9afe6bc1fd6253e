import Listing.Failure
import Listing.Operator
import Listing.Value.Text

/-!
# Sort and filter clauses

A sort clause is a field and a direction. A filter clause is a field, an operator token, a
value and two flags that normally are those of the operator. Both can also be described:
sorts by a token such as `-price`, and either by named members. A description becomes a
clause, or fails with the member that is missing or the word that is unknown. A clause as a record
has every member under its name.
-/

namespace Listing

inductive Direction where
  | ascending | descending
deriving DecidableEq, Repr

namespace Direction

def word : Direction → Text
  | ascending => "asc"
  | descending => "desc"

def ofWord? (w : Text) : Option Direction :=
  [ascending, descending].find? fun d => d.word = w

/-- The direction that a member of a description has to name. -/
def ofMember (v : Value) : Except Failure Direction :=
  match v.text?.bind ofWord? with
  | some d => .ok d
  | none => .error (.unknownDirection v.literal)

@[simp] theorem ofMember_word (d : Direction) : ofMember (.text d.word) = .ok d := by
  cases d <;> rfl

end Direction

/-- The member of a description that has to be there. -/
def required {α : Type} (key : Text) : Option α → Except Failure α
  | some t => .ok t
  | none => .error (.missingMember key)

structure SortClause where
  field : Text
  direction : Direction := .ascending
deriving DecidableEq, Repr

inductive SortSpec where
  | clause (c : SortClause)
  /-- A field, after a minus sign if it is descending. -/
  | token (t : Text)
  /-- A field and a word for the direction, ascending without one. -/
  | parts (field : Option Text) (direction : Option Value)

def SortSpec.toClause : SortSpec → Except Failure SortClause
  | clause c => .ok c
  | token ('-' :: field) => .ok ⟨field, .descending⟩
  | token field => .ok ⟨field, .ascending⟩
  | parts field direction => do
    let field ← required "field" field
    let direction ← match direction with
      | some v => Direction.ofMember v
      | none => .ok .ascending
    return ⟨field, direction⟩

def SortClause.toSpec (c : SortClause) : SortSpec :=
  .parts (some c.field) (some (.text c.direction.word))

@[simp] theorem SortClause.toClause_toSpec (c : SortClause) : c.toSpec.toClause = .ok c := by
  simp [toSpec, SortSpec.toClause, required, bind, Except.bind, pure, Except.pure]

/-- A condition on a field. The operator is kept as its token. The flags may be any values,
which count as true or not. -/
structure FilterClause where
  field : Text
  token : Text
  value : Value := .null
  negated : Value := .flag false
  ignoresCase : Value := .flag false

/-- A member that has two spellings; the one with underscores wins. -/
structure Spelled (α : Type) where
  underscored : Option α := none
  capitalized : Option α := none

def Spelled.get? {α : Type} (s : Spelled α) : Option α :=
  s.underscored <|> s.capitalized

inductive FilterSpec where
  /-- The clause itself, with any token. -/
  | clause (c : FilterClause)
  /-- The members by name; flags that are absent are those of the operator. -/
  | parts (field : Option Text) (token : Option Value) (value : Value)
      (negated ignoresCase : Spelled Value)

/-- The operator that a token has to name. -/
def Operator.ofToken (t : Text) : Except Failure Operator :=
  match Operator.ofToken? t with
  | some op => .ok op
  | none => .error (.unknownOperator t)

/-- The operator that a member of a description has to name by its token. -/
def Operator.ofMember : Value → Except Failure Operator
  | .text t => ofToken t
  | v => .error (.unknownOperator v.literal)

/-- The clause that a description gives. The operator is looked up before the field. -/
def FilterSpec.toClause : FilterSpec → Except Failure FilterClause
  | clause c => .ok c
  | parts field token value negated ignoresCase => do
    let op ← Operator.ofMember (← required "operator" token)
    let field ← required "field" field
    return {
      field, token := op.token, value
      negated := negated.get?.getD (.flag op.negated)
      ignoresCase := ignoresCase.get?.getD (.flag op.ignoresCase) }

def FilterClause.toSpec (c : FilterClause) : FilterSpec :=
  .parts (some c.field) (some (.text c.token)) c.value ⟨none, some c.negated⟩
    ⟨none, some c.ignoresCase⟩

/-- A clause of the grammar: the flags are those of the operator. -/
def FilterClause.ofOperator (field : Text) (op : Operator) (value : Value) : FilterClause :=
  { field, token := op.token, value
    negated := .flag op.negated, ignoresCase := .flag op.ignoresCase }

/-- Equality of filter clauses, with equality of values. -/
def FilterClause.same (a b : FilterClause) : Bool :=
  a.field = b.field && a.token = b.token && a.value.same b.value && a.negated.same b.negated
    && a.ignoresCase.same b.ignoresCase

/-- The fields of filter clauses in order, each once. -/
def fieldsOf (clauses : List FilterClause) : List Text :=
  distinctInOrder (clauses.map (·.field))

def SortClause.record (c : SortClause) : Value :=
  .dict [("field", .text c.field), ("direction", .text c.direction.word)]

def FilterClause.record (c : FilterClause) : Value :=
  .dict [("field", .text c.field), ("operator", .text c.token), ("value", c.value),
    ("isNegated", c.negated), ("isCaseInsensitive", c.ignoresCase)]

/-- The description of a sort that a value is. -/
def SortSpec.ofValue : Value → SortSpec
  | .text t => .token t
  | .dict members =>
    .parts ((Members.get? members "field").bind Value.text?) (Members.get? members "direction")
  | _ => .parts none none

/-- The description of a filter that a value is. -/
def FilterSpec.ofValue : Value → FilterSpec
  | .dict members =>
    .parts ((Members.get? members "field").bind Value.text?) (Members.get? members "operator")
      ((Members.get? members "value").getD .null)
      ⟨Members.get? members "is_negated", Members.get? members "isNegated"⟩
      ⟨Members.get? members "is_case_insensitive", Members.get? members "isCaseInsensitive"⟩
  | _ => .parts none none .null {} {}

theorem SortSpec.ofValue_record (c : SortClause) : ofValue c.record = c.toSpec :=
  rfl

theorem FilterSpec.ofValue_record (c : FilterClause) : ofValue c.record = c.toSpec :=
  rfl

end Listing
