import Listing.Text.Basic

/-!
# Filter operators

The closed table of operator tokens of a filter expression. A token compares in one of eleven
ways; a leading exclamation mark negates it; the plain and the starred spellings of the text
operators mean the same and stay apart, so that an expression is written back as it was read.

The boundary in an expression such as `price>=100` is the leftmost place after the first
character where any token begins, and the token there is the longest one.
-/

namespace Listing

/-- The ways in which an operator compares, apart from negation. -/
inductive Comparison where
  | equal | notEqual | greaterThan | greaterOrEqual | lessThan | lessOrEqual
  | isNull | isNotNull | contains | startsWith | endsWith
deriving DecidableEq, Repr

/-- The sixteen operators. -/
inductive Operator where
  | isNotNull | isNull | notEndsWith | endsWith | notContains | containsStarred | contains
  | notStartsWith | startsWithStarred | startsWith | notEqual | equal | greaterOrEqual
  | lessOrEqual | greaterThan | lessThan
deriving DecidableEq, Repr

namespace Comparison

def name : Comparison → Text
  | equal => "equal"
  | notEqual => "not_equal"
  | greaterThan => "greater_than"
  | greaterOrEqual => "greater_or_equal"
  | lessThan => "less_than"
  | lessOrEqual => "less_or_equal"
  | isNull => "is_null"
  | isNotNull => "is_not_null"
  | contains => "contains"
  | startsWith => "starts_with"
  | endsWith => "ends_with"

end Comparison

namespace Operator

def token : Operator → Text
  | isNotNull => "!=null"
  | isNull => "==null"
  | notEndsWith => "!_-="
  | endsWith => "_-="
  | notContains => "!@="
  | containsStarred => "@=*"
  | contains => "@="
  | notStartsWith => "!_="
  | startsWithStarred => "_=*"
  | startsWith => "_="
  | notEqual => "!="
  | equal => "=="
  | greaterOrEqual => ">="
  | lessOrEqual => "<="
  | greaterThan => ">"
  | lessThan => "<"

def comparison : Operator → Comparison
  | isNotNull => .isNotNull
  | isNull => .isNull
  | notEndsWith | endsWith => .endsWith
  | notContains | containsStarred | contains => .contains
  | notStartsWith | startsWithStarred | startsWith => .startsWith
  | notEqual => .notEqual
  | equal => .equal
  | greaterOrEqual => .greaterOrEqual
  | lessOrEqual => .lessOrEqual
  | greaterThan => .greaterThan
  | lessThan => .lessThan

/-- Whether the token is one with an exclamation mark. -/
def negated (op : Operator) : Bool :=
  op.token.head? = some '!'

/-- Whether an operator looks at letters without their case: those that look for a text
within another do. -/
def ignoresCase (op : Operator) : Bool :=
  match op.comparison with
  | .contains | .startsWith | .endsWith => true
  | _ => false

/-- Whether an operator asks only for the presence of a value. -/
def checksNull (op : Operator) : Bool :=
  match op.comparison with
  | .isNull | .isNotNull => true
  | _ => false

/-- The operators, a longer token before a shorter one. -/
def longestFirst : List Operator :=
  [isNotNull, isNull, notEndsWith, endsWith, notContains, containsStarred, notStartsWith,
   startsWithStarred, contains, startsWith, notEqual, equal, greaterOrEqual, lessOrEqual,
   greaterThan, lessThan]

/-- The operator with exactly this token. -/
def ofToken? (t : Text) : Option Operator :=
  longestFirst.find? fun op => op.token = t

/-- The operator with the longest token that the text begins with. -/
def atStart (t : Text) : Option Operator :=
  longestFirst.find? fun op => op.token.isPrefixOf t

/-- The operator with the longest token that begins at a position. A negative position counts
from the end and stops at the start; beyond the end nothing begins. -/
def atPosition (t : Text) (position : Int) : Option Operator :=
  let index := if position < 0 then (position + t.length).toNat else position.toNat
  atStart (t.drop index)

theorem mem_longestFirst (op : Operator) : op ∈ longestFirst := by
  cases op <;> decide

theorem longestFirst_sorted :
    longestFirst.Pairwise fun a b => b.token.length ≤ a.token.length := by
  decide

theorem token_ne_nil (op : Operator) : op.token ≠ [] := by
  cases op <;> decide

theorem token_injective {a b : Operator} (h : a.token = b.token) : a = b := by
  revert h
  cases a <;> cases b <;> decide

@[simp] theorem ofToken?_token (op : Operator) : ofToken? op.token = some op := by
  cases op <;> decide

theorem ofToken?_eq_some_iff {t : Text} {op : Operator} :
    ofToken? t = some op ↔ op.token = t := by
  constructor
  · intro h
    simpa [ofToken?] using List.find?_some h
  · rintro rfl
    exact ofToken?_token op

end Operator

/-- A filter expression cut at its operator. -/
structure Expression where
  field : Text
  op : Operator
  value : Text
deriving DecidableEq, Repr

namespace Expression

/-- The leftmost operator of a text, with what stands before and after it. -/
def scan : Text → Option Expression
  | [] => none
  | c :: rest =>
    match Operator.atStart (c :: rest) with
    | some op => some ⟨[], op, (c :: rest).drop op.token.length⟩
    | none => (scan rest).map fun e => { e with field := c :: e.field }

/-- An expression read from its text: the field has at least one character, so a token at the
very start is part of the field. -/
def read? : Text → Option Expression
  | [] => none
  | c :: rest => (scan rest).map fun e => { e with field := c :: e.field }

def text (e : Expression) : Text :=
  e.field ++ e.op.token ++ e.value

end Expression

end Listing
