import Listing.Text.Quoted
import Listing.Value.Basic

/-!
# Failures

What can stop an operation, by cause, with the wording of each cause in one place. A fault of
the request that is reported and worked around is not a failure.
-/

namespace Listing

/-- The causes that stop an operation. -/
inductive Failure where
  /-- A filter names an operator that is not in the grammar. -/
  | unknownOperator (shown : Text)
  /-- A described clause or field lacks a member it must have, or a row lacks a picked one. -/
  | missingMember (key : Text)
  /-- A change names no part of a query. -/
  | unknownPart (key : Text)
  /-- A page number or page size below one. -/
  | notPositive (key : Text) (number : Number)
  /-- Values of two kinds that are in no order were compared. -/
  | notOrdered (left right : Value.Kind)
  /-- A page size that is no number was taken times a number. -/
  | notScaled (kind : Value.Kind)
  | unknownValueType (literal : Text)
  | unknownDirection (literal : Text)
  /-- A value that is no way of joining conditions. -/
  | unknownJoining
  /-- A named value where an operation already has a value of that name in its place. -/
  | nameTaken (operation name : Text)
  /-- A named value where an operation already has a named value of that name. -/
  | keywordTaken (operation name : Text)
  /-- An integer with more digits than are read. -/
  | tooManyDigits (count : Nat)
  /-- An integer with more digits than are written. -/
  | tooLongToWrite
  | tooManyFields
  /-- An address whose host has a bracket out of place. -/
  | brokenHost
  /-- A host in brackets that starts as a later version and does not go on as one. -/
  | badLaterVersion
  /-- A host in brackets that needs none. -/
  | needlessBrackets
  | notNumeric (host : Text)
  /-- An address whose host would change its meaning when its characters are normalised. -/
  | ambiguousHost (host : Text)
  | divisionByZero
  | realDivisionByZero
  | quotientTooLarge
  /-- An integer beyond the binary numbers among them. -/
  | integerTooLarge
  | integerOfNaN
  | integerOfInfinity
  /-- A slice between bounds that are not integers. -/
  | fractionalBounds
  /-- A member was picked from a row without members. -/
  | notIndexed (kind : Value.Kind)
  | objectInBody
  | unknownSetting (name : Text)
  /-- A setting without a value read before. -/
  | notRead (name : Text)
  /-- A failure raised by a source, a hook or a handler; a failed look-up quotes its key. -/
  | raised (lookup : Bool) (name message : Text)
deriving DecidableEq

/-- The name of a kind of value in a wording. -/
def Value.Kind.name : Value.Kind → Text
  | .null => "NoneType"
  | .flag => "bool"
  | .whole => "int"
  | .real => "float"
  | .text => "str"
  | .list => "list"
  | .dict => "dict"
  | .object => "types.SimpleNamespace"
  | .date => "datetime.date"
  | .moment => "datetime.datetime"

namespace Failure

/-- The wording for a member picked from a row of a kind. Texts and lists have items, but no
members. -/
def notIndexedMessage : Value.Kind → Text
  | .text => "string indices must be integers, not 'str'"
  | .list => "list indices must be integers or slices, not str"
  | kind => ['\''] ++ kind.name ++ "' object is not subscriptable".toList

def message : Failure → Text
  | unknownOperator shown => "Unknown filter operator: '" ++ shown ++ ['\'']
  | missingMember key => key
  | unknownPart key => "Unknown sieve query key: '" ++ key ++ ['\'']
  | notPositive key number =>
    "Sieve query '" ++ key ++ "' must be a positive integer, got " ++ number.text
  | notOrdered left right =>
    "'<' not supported between instances of '" ++ left.name ++ "' and '".toList ++ right.name
      ++ ['\'']
  | notScaled kind => "unsupported operand type(s) for *: 'int' and '" ++ kind.name ++ ['\'']
  | unknownValueType literal => literal ++ " is not a valid ValueType".toList
  | unknownDirection literal => literal ++ " is not a valid SortDirection".toList
  | unknownJoining => "_connector must be one of 'AND', 'OR', 'XOR', or None."
  | nameTaken operation name =>
    operation ++ " got multiple values for argument '".toList ++ name ++ ['\'']
  | keywordTaken operation name =>
    operation ++ " got multiple values for keyword argument '".toList ++ name ++ ['\'']
  | tooManyDigits count =>
    "Exceeds the limit (4300 digits) for integer string conversion: value has "
      ++ natText count
      ++ " digits; use sys.set_int_max_str_digits() to increase the limit".toList
  | tooLongToWrite =>
    "Exceeds the limit (4300 digits) for integer string conversion; "
      ++ "use sys.set_int_max_str_digits() to increase the limit".toList
  | tooManyFields =>
    "The number of GET/POST parameters exceeded settings.DATA_UPLOAD_MAX_NUMBER_FIELDS."
  | brokenHost => "Invalid IPv6 URL"
  | badLaterVersion => "IPvFuture address is invalid"
  | needlessBrackets => "An IPv4 address cannot be in brackets"
  | notNumeric host => quoted host ++ " does not appear to be an IPv4 or IPv6 address".toList
  | ambiguousHost host =>
    "netloc '" ++ host ++ "' contains invalid characters under NFKC normalization".toList
  | divisionByZero => "division by zero"
  | realDivisionByZero => "float division by zero"
  | quotientTooLarge => "integer division result too large for a float"
  | integerTooLarge => "int too large to convert to float"
  | integerOfNaN => "cannot convert float NaN to integer"
  | integerOfInfinity => "cannot convert float infinity to integer"
  | fractionalBounds => "slice indices must be integers or None or have an __index__ method"
  | notIndexed kind => notIndexedMessage kind
  | objectInBody => "Object of type SimpleNamespace is not JSON serializable"
  | unknownSetting name => "Invalid django-sieve setting: '" ++ name ++ ['\'']
  | notRead name => "'SieveSettings' object has no attribute '" ++ name ++ ['\'']
  | raised _ _ message => message

/-- Whether a failure is a look-up that found nothing. -/
def isLookup : Failure → Bool
  | missingMember _ | unknownPart _ => true
  | raised lookup _ _ => lookup
  | _ => false

/-- A failure as the body of an answer reports it: a failed look-up is quoted. -/
def report (f : Failure) : Text :=
  if f.isLookup then quoted f.message else f.message

/-- The result of arithmetic that an integer beyond the binary numbers stops. -/
def ofArithmetic (result : Option Number) : Except Failure Number :=
  match result with
  | some n => .ok n
  | none => .error .integerTooLarge

end Failure

section Results
variable {α β : Type} {x : Except Failure α}

theorem map_eq_ok_iff {f : α → β} {b : β} : x.map f = .ok b ↔ ∃ a, x = .ok a ∧ f a = b := by
  cases x <;> simp [Except.map]

theorem bind_eq_ok_iff {f : α → Except Failure β} {b : β} :
    x >>= f = .ok b ↔ ∃ a, x = .ok a ∧ f a = .ok b := by
  cases x <;> simp [bind, Except.bind]

/-- There is at most one result: what holds of some result holds of the one given. -/
theorem of_exists_ok {P : α → Prop} (h : ∃ a, x = .ok a ∧ P a) {a : α} (given : x = .ok a) :
    P a := by
  obtain ⟨b, same, hb⟩ := h
  rw [Except.ok.inj (given.symm.trans same)]
  exact hb

/-- Each result of a list comes from one of its items. -/
theorem exists_of_mem_mapM {f : α → Except Failure β} {items : List α} {results : List β}
    (h : items.mapM f = .ok results) {b : β} (hb : b ∈ results) : ∃ a ∈ items, f a = .ok b := by
  induction items generalizing results with
  | nil =>
    cases h
    cases hb
  | cons a rest ih =>
    rw [List.mapM_cons] at h
    obtain ⟨first, hfirst, h⟩ := bind_eq_ok_iff.1 h
    obtain ⟨others, later, h⟩ := bind_eq_ok_iff.1 h
    cases h
    rcases List.mem_cons.1 hb with rfl | hb
    · exact ⟨a, List.mem_cons_self, hfirst⟩
    · obtain ⟨c, hc, same⟩ := ih later hb
      exact ⟨c, List.mem_cons_of_mem a hc, same⟩

/-- What each successful step preserves, a run of steps preserves. -/
theorem foldlM_preserves {f : β → α → Except Failure β} {items : List α} {P : β → Prop}
    (preserves : ∀ a ∈ items, ∀ b c, P b → f b a = .ok c → P c) {first last : β}
    (h : items.foldlM f first = .ok last) (start : P first) : P last := by
  induction items generalizing first with
  | nil =>
    cases h
    exact start
  | cons a rest ih =>
    rw [List.foldlM_cons] at h
    obtain ⟨next, step, later⟩ := bind_eq_ok_iff.1 h
    exact ih (fun b hb => preserves b (List.mem_cons_of_mem a hb)) later
      (preserves a List.mem_cons_self first next start step)

theorem map_eq_error_iff {f : α → β} {failure : Failure} :
    x.map f = .error failure ↔ x = .error failure := by
  cases x <;> simp [Except.map]

theorem bind_eq_error_iff {f : α → Except Failure β} {failure : Failure} :
    x >>= f = .error failure ↔ x = .error failure ∨ ∃ a, x = .ok a ∧ f a = .error failure := by
  cases x <;> simp [bind, Except.bind]

end Results

end Listing
