import Listing.Text.Basic
import Listing.Binary64.Basic

/-!
# The shortest decimal text of a value

A value is written with the fewest decimal digits that read back to it, and with the nearest
such digits where there is a choice. A value is a whole number of `10^-1074`, so its two
neighbours among the decimals of `n` digits are found by one division of naturals.

The digits stand positionally from `10^-4` to below `10^16`, with `.0` after a whole number,
and otherwise as one digit, a fraction and an exponent of at least two digits with its sign.
-/

namespace Listing

namespace Magnitude

/-- The value as a whole number of `10^-1074`. -/
def exact (m : Magnitude) : Nat :=
  m.units * Nat.pow 5 1074

/-- Whether a decimal is read as this value. -/
def readsFrom (m : Magnitude) (coefficient : Nat) (exponent : Int) : Bool :=
  Binary64.ofDecimal false coefficient exponent = .finite false m

/-- The decimal of `n` digits that is nearest to the value among those read as it, if there is
one; a tie goes to the even coefficient. It is one of the two neighbours of the value. -/
def decimalOf (m : Magnitude) (n : Nat) : Option (Nat × Int) :=
  let dropped := Binary64.digitCount m.exact - n
  let grid := Nat.pow 10 dropped
  let low := m.exact / grid
  let exponent : Int := dropped - 1074
  let chosen := [nearestEven m.exact grid, low, low + 1].find? fun c => m.readsFrom c exponent
  chosen.map fun c => (c, exponent)

/-- The shortest decimal read as the value: coefficient and exponent of ten. Seventeen digits
are tried; the exact decimal would follow them. -/
def shortest (m : Magnitude) : Nat × Int :=
  ((List.range' 1 17).findSome? m.decimalOf).getD (m.exact, -1074)

end Magnitude

/-- Digits `d₁d₂…` with the value `d₁.d₂… · 10^point`, written positionally. -/
def positionalText (digits : Text) (point : Int) : Text :=
  if point < 0 then
    ['0', '.'] ++ List.replicate (-point - 1).toNat '0' ++ digits
  else
    let whole := point.toNat + 1
    if digits.length ≤ whole then
      digits ++ List.replicate (whole - digits.length) '0' ++ ['.', '0']
    else digits.take whole ++ ['.'] ++ digits.drop whole

/-- Digits `d₁d₂…` with the value `d₁.d₂… · 10^point`, written with an exponent. -/
def exponentText (digits : Text) (point : Int) : Text :=
  let fraction := digits.drop 1
  let power := natText point.natAbs
  digits.take 1 ++ (if fraction.isEmpty then [] else '.' :: fraction)
    ++ ['e', if point < 0 then '-' else '+'] ++ List.replicate (2 - power.length) '0' ++ power

/-- The text of a decimal that is not zero. -/
def decimalText (coefficient : Nat) (exponent : Int) : Text :=
  let digits := natText coefficient
  let point := digits.length + exponent - 1
  let significant := (digits.reverse.dropWhile (· == '0')).reverse
  if -4 ≤ point ∧ point < 16 then positionalText significant point
  else exponentText significant point

/-- The text of a value: the shortest that reads back, with a point or an exponent. -/
def Binary64.text : Binary64 → Text
  | .nan => "nan"
  | .infinite negative => (if negative then ['-'] else []) ++ "inf".toList
  | .finite negative m =>
    (if negative then ['-'] else []) ++
      (if m.units = 0 then "0.0".toList else decimalText m.shortest.1 m.shortest.2)

end Listing
