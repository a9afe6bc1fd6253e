import Listing.Number.Basic
import Listing.Value.Moment

/-!
# Values

What records, filter clauses and answers hold: nothing, numbers, texts, lists, dictionaries
with texts as keys, objects with named members, dates and moments. Dictionaries and objects
keep the order of their members; no two members of one have the same name.
-/

namespace Listing

/-- A value of a record, a clause or an answer. Dates and moments are kept as their texts. -/
inductive Value where
  | null
  | number (n : Number)
  | text (t : Text)
  | list (items : List Value)
  | dict (members : List (Text × Value))
  | object (members : List (Text × Value))
  | date (iso : Text)
  | moment (iso : Text)

/-- Named values in order. -/
abbrev Members := List (Text × Value)

instance : Inhabited Value := ⟨.null⟩

namespace Members

/-- The members with one more: it takes the place of a member with its name, or comes last. -/
def put (members : Members) (key : Text) (value : Value) : Members :=
  match members with
  | [] => [(key, value)]
  | (k, v) :: rest => if k = key then (k, value) :: rest else (k, v) :: put rest key value

/-- The members with others put over them one by one. -/
def overlay (members later : Members) : Members :=
  later.foldl (fun acc m => put acc m.1 m.2) members

/-- The member of a name. -/
def get? (members : Members) (key : Text) : Option Value :=
  members.lookup key

theorem get?_cons (k key : Text) (v : Value) (rest : Members) :
    get? ((k, v) :: rest) key = if key = k then some v else get? rest key := by
  unfold get?
  rw [List.lookup_cons]
  by_cases h : key = k
  · simp [h]
  · have apart : (key == k) = false := by simpa using h
    simp [h, apart]

theorem get?_put (members : Members) (key other : Text) (value : Value) :
    (put members key value).get? other =
      if other = key then some value else members.get? other := by
  induction members with
  | nil => exact get?_cons key other value []
  | cons m rest ih =>
    obtain ⟨k, v⟩ := m
    unfold put
    by_cases hk : k = key
    · subst hk
      rw [if_pos rfl, get?_cons, get?_cons]
      by_cases h : other = k <;> simp [h]
    · rw [if_neg hk, get?_cons, get?_cons, ih]
      by_cases h : other = k
      · subst h
        simp [hk]
      · simp [h]

theorem mem_of_get? {members : Members} {key : Text} {value : Value}
    (h : members.get? key = some value) : (key, value) ∈ members := by
  obtain ⟨before, after, rfl, -⟩ := List.lookup_eq_some_iff.1 h
  exact List.mem_append_right _ List.mem_cons_self

theorem mem_put {members : Members} {key : Text} {value : Value} {m : Text × Value}
    (h : m ∈ members.put key value) : m ∈ members ∨ m = (key, value) := by
  induction members with
  | nil => exact .inr (List.mem_singleton.1 h)
  | cons first rest ih =>
    obtain ⟨k, old⟩ := first
    unfold put at h
    split at h
    · next same =>
      subst same
      rcases List.mem_cons.1 h with rfl | h
      · exact .inr rfl
      · exact .inl (List.mem_cons_of_mem _ h)
    · rcases List.mem_cons.1 h with rfl | h
      · exact .inl List.mem_cons_self
      · exact (ih h).imp (List.mem_cons_of_mem _) id

end Members

namespace Value

abbrev flag (b : Bool) : Value := .number (.flag b)

abbrev int (i : Int) : Value := .number (.whole i)

def isNull : Value → Bool
  | .null => true
  | _ => false

def isFlag : Value → Bool
  | .number (.flag _) => true
  | _ => false

def isNumber : Value → Bool
  | .number _ => true
  | _ => false

/-- The text that a value is, if it is one. -/
def text? : Value → Option Text
  | .text t => some t
  | _ => none

/-- Whether a value counts as true: nothing, zero and what is empty do not. -/
def truthy : Value → Bool
  | .null => false
  | .number (.flag b) => b
  | .number n => !n.same 0
  | .text t => !t.isEmpty
  | .list items => !items.isEmpty
  | .dict members => !members.isEmpty
  | .object _ | .date _ | .moment _ => true

@[simp] theorem truthy_flag (b : Bool) : (flag b).truthy = b := rfl

/-- The kinds of value that equality tells apart; integers and binary numbers are two. -/
inductive Kind where
  | null | flag | whole | real | text | list | dict | object | date | moment
deriving DecidableEq

def kind : Value → Kind
  | .null => .null
  | .number (.flag _) => .flag
  | .number (.whole _) => .whole
  | .number (.real _) => .real
  | .text _ => .text
  | .list _ => .list
  | .dict _ => .dict
  | .object _ => .object
  | .date _ => .date
  | .moment _ => .moment

mutual

/-- Equality of values: numbers by their values, lists item by item, dictionaries member by
member in any order and objects likewise, moments by what they name. -/
def same : Value → Value → Bool
  | .null, .null => true
  | .number a, .number b => a.same b
  | .text a, .text b => a = b
  | .list a, .list b => sameItems a b
  | .dict a, .dict b | .object a, .object b => a.length = b.length && sameMembers a b
  | .date a, .date b => a = b
  | .moment a, .moment b => instantOf a = instantOf b
  | _, _ => false

def sameItems : List Value → List Value → Bool
  | [], [] => true
  | a :: as, b :: bs => same a b && sameItems as bs
  | _, _ => false

/-- Whether each member has an equal one of its name among others. -/
def sameMembers : List (Text × Value) → List (Text × Value) → Bool
  | [], _ => true
  | (key, value) :: rest, others =>
    (match others.lookup key with
      | some other => same value other
      | none => false) && sameMembers rest others

end

@[simp] theorem same_number (a b : Number) : (number a).same (number b) = a.same b := by
  rw [same]

end Value

end Listing
