import Listing.Failure

/-!
# The texts of values

How a value stands in a filter expression: nothing is the empty text, truth values are
`true` and `false`, whole binary numbers have no point, and a moment has a space between date
and time. A list or dictionary stands as a literal, with its texts quoted.

How a value stands in the body of an answer: dates and moments become texts, a moment with
milliseconds and with `Z` for the zero offset. An object has no place in a body, and neither has an
integer that is too long to be written.
-/

namespace Listing

namespace Value

/-- The text of a moment with a space between its date and its time. -/
def spacedMoment (iso : Text) : Text :=
  iso.map fun c => if c = 'T' then ' ' else c

mutual

/-- A value as a literal. -/
def literal : Value → Text
  | .null => "None"
  | .number n => n.text
  | .text t => quoted t
  | .list items => ['['] ++ joinWith ", " (literals items) ++ [']']
  | .dict members => ['\x7b'] ++ joinWith ", " (literalMembers members) ++ ['\x7d']
  | .object members => "namespace(" ++ joinWith ", " (literalAttributes members) ++ [')']
  | .date iso => dateLiteral iso
  | .moment iso => momentLiteral iso

def literals : List Value → List Text
  | [] => []
  | v :: rest => literal v :: literals rest

/-- The members of a dictionary, each as a quoted name and a literal. -/
def literalMembers : List (Text × Value) → List Text
  | [] => []
  | (key, value) :: rest => (quoted key ++ [':', ' '] ++ literal value) :: literalMembers rest

/-- The members of an object that have a name, each as the name and a literal. -/
def literalAttributes : List (Text × Value) → List Text
  | [] => []
  | ([], _) :: rest => literalAttributes rest
  | (key, value) :: rest => (key ++ '=' :: literal value) :: literalAttributes rest

end

mutual

/-- Whether a value has a text: every number in it has one. -/
def writable : Value → Bool
  | .number n => n.writable
  | .list items => itemsWritable items
  | .dict members | .object members => membersWritable members
  | .null | .text _ | .date _ | .moment _ => true

def itemsWritable : List Value → Bool
  | [] => true
  | v :: rest => writable v && itemsWritable rest

def membersWritable : List (Text × Value) → Bool
  | [] => true
  | (_, value) :: rest => writable value && membersWritable rest

end

/-- A value as it stands in a filter expression. -/
def toText : Value → Text
  | .null => []
  | .number (.flag b) => if b then "true" else "false"
  | .number (.whole i) => intText i
  | .number (.real x) =>
    match x.toInt? with
    | some i => intText i
    | none => x.text
  | .text t => t
  | .date iso => iso
  | .moment iso => spacedMoment iso
  | v => literal v

/-- A moment in the body of an answer: its fraction is cut to milliseconds, and the zero
offset is `Z`. -/
def bodyMoment (iso : Text) : Text :=
  let cut := if (iso.drop 19).head? = some '.' then iso.take 23 ++ iso.drop 26 else iso
  if "+00:00".toList.isSuffixOf cut then cut.take (cut.length - 6) ++ ['Z'] else cut

mutual

/-- A value in the body of an answer. -/
def toBody : Value → Value
  | .list items => .list (bodyItems items)
  | .dict members => .dict (bodyMembers members)
  | .date iso => .text iso
  | .moment iso => .text (bodyMoment iso)
  | v => v

def bodyItems : List Value → List Value
  | [] => []
  | v :: rest => toBody v :: bodyItems rest

def bodyMembers : List (Text × Value) → List (Text × Value)
  | [] => []
  | (key, value) :: rest => (key, toBody value) :: bodyMembers rest

end

mutual

/-- What keeps a value out of the body of an answer: the first object in it, or the first integer
with more digits than are written. -/
def bodyFailure? : Value → Option Failure
  | .object _ => some .objectInBody
  | .number n => if n.writable then none else some .tooLongToWrite
  | .list items => itemsFailure? items
  | .dict members => membersFailure? members
  | .null | .text _ | .date _ | .moment _ => none

def itemsFailure? : List Value → Option Failure
  | [] => none
  | v :: rest => (bodyFailure? v).or (itemsFailure? rest)

def membersFailure? : List (Text × Value) → Option Failure
  | [] => none
  | (_, value) :: rest => (bodyFailure? value).or (membersFailure? rest)

end

/-- A value as the body of an answer. -/
def asBody (v : Value) : Except Failure Value :=
  match v.bodyFailure? with
  | some f => .error f
  | none => .ok v.toBody

/-- The values that a value is made of one after the other: items, names of members, or
characters. -/
def elements : Value → List Value
  | .list items => items
  | .dict members => members.map fun m => .text m.1
  | .text t => t.map fun c => .text [c]
  | _ => []

end Value

end Listing
