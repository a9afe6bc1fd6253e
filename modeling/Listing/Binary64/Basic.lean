/-!
# Binary numbers of 64 bits

The values of the 64-bit binary format, held exactly. Every finite value is a whole number of
units of `2^-1074`, the least positive one, so a finite value is a sign and a count of units.
Rounding a quotient of naturals to the format is integer arithmetic: the step between
neighbours at that size is a power of two, and the quotient goes to the nearest multiple of
the step, a tie to the even one.
-/

namespace Listing

/-- The number of units in one: the least positive value is `2^-1074`. -/
def unitsPerOne : Nat := Nat.pow 2 1074

theorem unitsPerOne_pos : 0 < unitsPerOne := by
  decide +kernel

/-- The first power of two beyond the format, in units. -/
def unitsLimit : Nat := Nat.pow 2 2098

/-- The distance between neighbouring values at a size given in units: one unit up to 53
bits, and then the power of two that leaves 53 significant bits. -/
def stepAt (units : Nat) : Nat := Nat.pow 2 (units.log2 - 52)

/-- A count of units that the format can hold: it is below the limit and has at most 53
significant bits. -/
def Representable (units : Nat) : Prop :=
  units < unitsLimit ∧ stepAt units ∣ units

instance (units : Nat) : Decidable (Representable units) :=
  inferInstanceAs (Decidable (_ ∧ _))

/-- The size of a finite value, in units. -/
structure Magnitude where
  units : Nat
  representable : Representable units
deriving DecidableEq

/-- A value of the format. The two zeros are different values that compare as equal. -/
inductive Binary64 where
  | finite (negative : Bool) (magnitude : Magnitude)
  | infinite (negative : Bool)
  | nan
deriving DecidableEq

/-- The natural number nearest to a quotient, the even one of two equally near. -/
def nearestEven (num den : Nat) : Nat :=
  let whole := num / den
  let rest := num % den
  if 2 * rest < den then whole
  else if den < 2 * rest then whole + 1
  else if whole % 2 = 0 then whole else whole + 1

/-- The quotient of two naturals in units, rounded to a multiple of the step at its size. -/
def roundedUnits (num den : Nat) : Nat :=
  let step := stepAt (num * unitsPerOne / den)
  step * nearestEven (num * unitsPerOne) (den * step)

namespace Binary64

/-- The value nearest to a quotient of naturals, under a sign; beyond the greatest finite
value it is infinite. -/
def ofRatio (negative : Bool) (num den : Nat) : Binary64 :=
  if h : Representable (roundedUnits num den) then .finite negative ⟨_, h⟩
  else .infinite negative

def ofInt (i : Int) : Binary64 :=
  ofRatio (i < 0) i.natAbs 1

/-- The value nearest to an integer, unless the integer is beyond the format. -/
def ofInt? (i : Int) : Option Binary64 :=
  match ofInt i with
  | .infinite _ => none
  | x => some x

def zero (negative : Bool) : Binary64 :=
  .finite negative ⟨0, by decide +kernel⟩

def digitCount (n : Nat) : Nat :=
  (Nat.toDigits 10 n).length

/-- The value nearest to `coefficient · 10^exponent`, under a sign. A coefficient that is not
zero overflows from `10^310` on, and below `10^-324` it is less than half a unit, so those
powers of ten are never computed. -/
def ofDecimal (negative : Bool) (coefficient : Nat) (exponent : Int) : Binary64 :=
  if coefficient = 0 then zero negative
  else if 310 ≤ exponent then .infinite negative
  else if digitCount coefficient + exponent ≤ -324 then zero negative
  else if 0 ≤ exponent then ofRatio negative (coefficient * Nat.pow 10 exponent.toNat) 1
  else ofRatio negative coefficient (Nat.pow 10 (-exponent).toNat)

/-- The units of a finite value with its sign. -/
def signedUnits (negative : Bool) (m : Magnitude) : Int :=
  if negative then -m.units else m.units

/-- A number of units with its sign, rounded to the format. -/
def ofSignedUnits (units : Int) : Binary64 :=
  ofRatio (units < 0) units.natAbs unitsPerOne

/-- The integer that a value is, if it is one. -/
def toInt? : Binary64 → Option Int
  | .finite negative m =>
    if m.units % unitsPerOne = 0 then
      let whole : Int := (m.units / unitsPerOne : Nat)
      some (if negative then -whole else whole)
    else none
  | _ => none

/-- The least integer that is not below a value, if the value is finite. -/
def ceil? : Binary64 → Option Int
  | .finite true m => some (-(m.units / unitsPerOne : Nat))
  | .finite false m => some ((m.units + (unitsPerOne - 1)) / unitsPerOne : Nat)
  | _ => none

def isZero : Binary64 → Bool
  | .finite _ m => m.units = 0
  | _ => false

def neg : Binary64 → Binary64
  | .finite negative m => .finite (!negative) m
  | .infinite negative => .infinite (!negative)
  | .nan => .nan

/-- The rounded difference of two values. Equal finite values differ by the positive zero. -/
def sub : Binary64 → Binary64 → Binary64
  | .nan, _ | _, .nan => .nan
  | .infinite s, .infinite t => if s = t then .nan else .infinite s
  | .infinite s, .finite .. => .infinite s
  | .finite .., .infinite t => .infinite (!t)
  | .finite s a, .finite t b =>
    if a.units = 0 ∧ b.units = 0 ∧ s ∧ !t then zero true
    else ofSignedUnits (signedUnits s a - signedUnits t b)

/-- The rounded sum of two values. -/
def add (x y : Binary64) : Binary64 :=
  x.sub y.neg

/-- The rounded product of two values. An infinity times a zero is no number. -/
def mul : Binary64 → Binary64 → Binary64
  | .nan, _ | _, .nan => .nan
  | .infinite s, .infinite t => .infinite (s != t)
  | .infinite s, .finite t b => if b.units = 0 then .nan else .infinite (s != t)
  | .finite s a, .infinite t => if a.units = 0 then .nan else .infinite (s != t)
  | .finite s a, .finite t b => ofRatio (s != t) (a.units * b.units) (unitsPerOne * unitsPerOne)

/-- The rounded quotient of two values. Of two zeros and of two infinities it is no number. -/
def div : Binary64 → Binary64 → Binary64
  | .nan, _ | _, .nan | .infinite _, .infinite _ => .nan
  | .infinite s, .finite t _ => .infinite (s != t)
  | .finite s _, .infinite t => zero (s != t)
  | .finite s a, .finite t b =>
    if b.units = 0 then (if a.units = 0 then .nan else .infinite (s != t))
    else ofRatio (s != t) a.units b.units

end Binary64

end Listing
