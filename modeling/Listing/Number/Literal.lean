import Listing.Text.Digit
import Listing.Binary64.Basic

/-!
# Number literals

The texts that a field of numbers accepts: an optional sign, then digits with an optional
point and fraction or a point with a fraction, then optionally an exponent. Digits may come
from any script. One line feed may follow.
-/

namespace Listing

structure NumberLiteral where
  negative : Bool
  whole : Text
  fraction : Text
  exponentNegative : Bool
  exponent : Text
deriving DecidableEq, Repr

namespace NumberLiteral

/-- An optional sign: whether it is a minus, and what follows. -/
def readSign : Text → Bool × Text
  | '-' :: rest => (true, rest)
  | '+' :: rest => (false, rest)
  | t => (false, t)

/-- The optional exponent that has to end a literal: its sign and digits, both absent from a
literal without one. -/
def readExponent? : Text → Option (Bool × Text)
  | [] => some (false, [])
  | c :: rest =>
    if c = 'e' ∨ c = 'E' then
      let (negative, digits) := readSign rest
      if digits.isEmpty || !digits.all isDigit then none else some (negative, digits)
    else none

/-- The optional point and fraction after the whole part: the digits, and what follows. -/
def readFraction : Text → Text × Text
  | '.' :: rest => spanDigits rest
  | t => ([], t)

/-- The text without one line feed at its end. -/
def dropLineEnd (t : Text) : Text :=
  if t.getLast? = some '\n' then t.dropLast else t

/-- The parts of a text that is a number literal. A literal has a digit in its whole part or
its fraction. -/
def read? (t : Text) : Option NumberLiteral :=
  let (negative, unsigned) := readSign (dropLineEnd t)
  let (whole, afterWhole) := spanDigits unsigned
  let (fraction, afterFraction) := readFraction afterWhole
  if whole.isEmpty && fraction.isEmpty then none
  else (readExponent? afterFraction).map fun (exponentNegative, exponent) =>
    { negative, whole, fraction, exponentNegative, exponent }

def power (l : NumberLiteral) : Int :=
  if l.exponentNegative then -(digitsValue l.exponent : Int) else digitsValue l.exponent

def value (l : NumberLiteral) : Binary64 :=
  Binary64.ofDecimal l.negative (digitsValue (l.whole ++ l.fraction))
    (l.power - l.fraction.length)

end NumberLiteral

end Listing
