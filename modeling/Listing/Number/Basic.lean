import Listing.Text.Basic
import Listing.Binary64.Shortest

/-!
# Numbers

Page numbers and record values are exact integers, binary numbers, or flags; a flag counts
as one or zero. Numbers of different kinds are compared by their exact values: an integer is
never rounded first.
-/

namespace Listing

inductive Number where
  | flag (b : Bool)
  | whole (i : Int)
  | real (x : Binary64)
deriving DecidableEq

/-- Where a number lies on the line of reals with both infinities, in units of `2^-1074`. -/
inductive Position where
  | lowest
  | point (units : Int)
  | highest
  | nowhere
deriving DecidableEq

namespace Position

/-- The order of positions. What lies nowhere is neither before nor after anything. -/
def before : Position → Position → Bool
  | .nowhere, _ | _, .nowhere => false
  | .point a, .point b => a < b
  | .lowest, .lowest | .highest, _ | _, .lowest => false
  | .lowest, _ | _, .highest => true

/-- Equality of positions. What lies nowhere is not even equal to itself. -/
def same : Position → Position → Bool
  | .nowhere, _ => false
  | p, q => p = q

end Position

namespace Number

instance (i : Nat) : OfNat Number i := ⟨.whole i⟩
instance : Coe Int Number := ⟨.whole⟩

/-- The integer that a flag counts as. -/
def ofFlag (b : Bool) : Int := if b then 1 else 0

def position : Number → Position
  | .flag b => .point (ofFlag b * unitsPerOne)
  | .whole i => .point (i * unitsPerOne)
  | .real (.finite negative m) => .point (Binary64.signedUnits negative m)
  | .real (.infinite negative) => if negative then .lowest else .highest
  | .real .nan => .nowhere

def same (a b : Number) : Bool := a.position.same b.position

def less (a b : Number) : Bool := a.position.before b.position

def atMost (a b : Number) : Bool := a.less b || a.same b

/-- The integer that a number counts as, if it is a flag or an integer. -/
def toInt? : Number → Option Int
  | .flag b => some (ofFlag b)
  | .whole i => some i
  | .real _ => none

/-- The binary number nearest to a number, unless it is an integer beyond the format. -/
def toReal? : Number → Option Binary64
  | .flag b => Binary64.ofInt? (ofFlag b)
  | .whole i => Binary64.ofInt? i
  | .real x => some x

/-- The result of integer arithmetic where both numbers count as integers, and otherwise of
binary arithmetic, which an integer beyond the format cannot enter. -/
def combine? (exact : Int → Int → Int) (rounded : Binary64 → Binary64 → Binary64)
    (a b : Number) : Option Number :=
  match a.toInt?, b.toInt? with
  | some i, some j => some (.whole (exact i j))
  | _, _ =>
    match a.toReal?, b.toReal? with
    | some x, some y => some (.real (rounded x y))
    | _, _ => none

def add? : Number → Number → Option Number := combine? (· + ·) Binary64.add

def sub? : Number → Number → Option Number := combine? (· - ·) Binary64.sub

def mul? : Number → Number → Option Number := combine? (· * ·) Binary64.mul

/-- A number as it stands in an address: `True` or `False` for a flag. -/
def text : Number → Text
  | .flag b => if b then "True" else "False"
  | .whole i => intText i
  | .real x => x.text

/-- Whether a number has a text: an integer with too many digits has none. -/
def writable : Number → Bool
  | .whole i => (natText i.natAbs).length ≤ digitLimit
  | .flag _ | .real _ => true

@[simp] theorem toInt?_whole (i : Int) : (whole i).toInt? = some i := rfl

@[simp] theorem add?_whole (i j : Int) : (whole i).add? (whole j) = some (whole (i + j)) := rfl

@[simp] theorem sub?_whole (i j : Int) : (whole i).sub? (whole j) = some (whole (i - j)) := rfl

@[simp] theorem mul?_whole (i j : Int) : (whole i).mul? (whole j) = some (whole (i * j)) := rfl

theorem position_whole_injective {i j : Int} (h : (whole i).position = (whole j).position) :
    i = j := by
  have positive : (unitsPerOne : Int) ≠ 0 :=
    Int.natCast_ne_zero.2 (Nat.pos_iff_ne_zero.1 unitsPerOne_pos)
  exact Int.eq_of_mul_eq_mul_right positive (Position.point.inj h)

@[simp] theorem same_whole (i j : Int) : (whole i).same (whole j) = decide (i = j) := by
  show decide ((whole i).position = (whole j).position) = decide (i = j)
  exact decide_eq_decide.2 ⟨position_whole_injective, fun h => h ▸ rfl⟩

@[simp] theorem same_one (i : Int) : (whole i).same 1 = decide (i = 1) :=
  same_whole i 1

@[simp] theorem less_whole (i j : Int) : (whole i).less (whole j) = decide (i < j) := by
  have positive : (0 : Int) < unitsPerOne := Int.natCast_pos.2 unitsPerOne_pos
  show decide (i * (unitsPerOne : Int) < j * unitsPerOne) = decide (i < j)
  exact decide_eq_decide.2 (Int.mul_lt_mul_right positive)

end Number

end Listing
