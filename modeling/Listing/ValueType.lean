import Listing.Failure
import Listing.Number.Literal
import Listing.Value.Text

/-!
# Declared types of filter values

A filterable field may declare what its values are. A raw text is then read as that type, or
refused with the reason; a field that declares nothing keeps the text.
-/

namespace Listing

/-- What a field declares its values to be. -/
inductive ValueType where
  | string | number | boolean
deriving DecidableEq, Repr

/-- Why a raw text is no value of its declared type. -/
inductive BadValue where
  | notNumber (raw : Text)
  | notBoolean (raw : Text)
deriving DecidableEq, Repr

def BadValue.message : BadValue → Text
  | notNumber raw => "Expected a number, got '" ++ raw ++ ['\'']
  | notBoolean raw => "Expected 'true' or 'false', got '" ++ raw ++ ['\'']

namespace ValueType

def word : ValueType → Text
  | string => "string"
  | number => "number"
  | boolean => "boolean"

def ofWord? (w : Text) : Option ValueType :=
  [string, number, boolean].find? fun t => t.word = w

/-- The type that a member of a description has to name. -/
def ofMember (v : Value) : Except Failure ValueType :=
  match v.text?.bind ofWord? with
  | some t => .ok t
  | none => .error (.unknownValueType v.literal)

/-- A raw text as a value of a declared type. -/
def coerce (declared : Option ValueType) (raw : Text) : Except BadValue Value :=
  match declared with
  | some boolean =>
    if raw = "true".toList then .ok (.flag true)
    else if raw = "false".toList then .ok (.flag false)
    else .error (.notBoolean raw)
  | some number =>
    match NumberLiteral.read? raw with
    | some literal => .ok (.number (.real literal.value))
    | none => .error (.notNumber raw)
  | some string | none => .ok (.text raw)

@[simp] theorem ofWord?_word (t : ValueType) : ofWord? t.word = some t := by
  cases t <;> decide

end ValueType

end Listing
