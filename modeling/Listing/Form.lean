import Listing.Failure

/-!
# Query strings

Pairs of names and values in the form of a query string: `name=value` joined by `&`, with
letters, digits and `_.-~` as they are, a space as `+`, and every other character as the
escaped octets of its UTF-8 form.

Reading is lenient. Fields without `=` have an empty value and empty fields are skipped; an
escape that is not two hexadecimal digits stands for itself; octets that are no UTF-8 give
the replacement character, once for each maximal start of a character that is broken off. A
character beyond ASCII stands for itself and also breaks off what was begun before it.
Octets are natural numbers here.
-/

namespace Listing.Form

/-! ## Writing -/

def utf8 (c : Char) : List Nat :=
  let n := c.toNat
  if n < 0x80 then [n]
  else if n < 0x800 then [0xC0 + n / 64, 0x80 + n % 64]
  else if n < 0x10000 then [0xE0 + n / 4096, 0x80 + n / 64 % 64, 0x80 + n % 64]
  else [0xF0 + n / 262144, 0x80 + n / 4096 % 64, 0x80 + n / 64 % 64, 0x80 + n % 64]

/-- The digit of a number below sixteen, a capital beyond nine. -/
def hexDigit (n : Nat) : Char :=
  if n < 10 then Char.ofNat (48 + n) else Char.ofNat (55 + n)

def escapeOctet (b : Nat) : Text :=
  ['%', hexDigit (b / 16), hexDigit (b % 16)]

/-- Whether a character is written as it is. -/
def isPlain (c : Char) : Bool :=
  c.isAlphanum || c = '_' || c = '.' || c = '-' || c = '~'

def encodeChar (c : Char) : Text :=
  if isPlain c then [c] else if c = ' ' then ['+'] else (utf8 c).flatMap escapeOctet

def encode (t : Text) : Text :=
  t.flatMap encodeChar

def encodePair (pair : Text × Text) : Text :=
  encode pair.1 ++ '=' :: encode pair.2

def write (pairs : List (Text × Text)) : Text :=
  joinWith ['&'] (pairs.map encodePair)

/-! ## Reading -/

def hexValue? (c : Char) : Option Nat :=
  if '0' ≤ c ∧ c ≤ '9' then some (c.toNat - 48)
  else if 'A' ≤ c ∧ c ≤ 'F' then some (c.toNat - 55)
  else if 'a' ≤ c ∧ c ≤ 'f' then some (c.toNat - 87)
  else none

/-- What a query string is made of: octets, and characters beyond ASCII as they stand. -/
inductive Piece where
  | octet (b : Nat)
  | char (c : Char)
deriving DecidableEq, Repr

/-- A character that is no escape. A plus is a space. -/
def plainPiece (c : Char) : Piece :=
  if c = '+' then .octet 32 else if c.toNat < 0x80 then .octet c.toNat else .char c

/-- The pieces of a text, with its escapes resolved. -/
def piecesOf : Text → List Piece
  | '%' :: a :: b :: rest =>
    match hexValue? a, hexValue? b with
    | some high, some low => .octet (16 * high + low) :: piecesOf rest
    | _, _ => .octet 37 :: piecesOf (a :: b :: rest)
  | c :: rest => plainPiece c :: piecesOf rest
  | [] => []

/-- The character for octets that are no UTF-8. -/
def replacement : Char := Char.ofNat 0xFFFD

/-- A character begun: the octets still owed, the bounds of the next one, and the bits so
far. -/
structure Begun where
  owed : Nat
  least : Nat
  greatest : Nat
  bits : Nat
deriving DecidableEq, Repr

/-- The start of a character, for an octet from `0x80` on that can start one. -/
def begin? (b : Nat) : Option Begun :=
  if 0xC2 ≤ b ∧ b ≤ 0xDF then some ⟨1, 0x80, 0xBF, b - 0xC0⟩
  else if b = 0xE0 then some ⟨2, 0xA0, 0xBF, 0⟩
  else if b = 0xED then some ⟨2, 0x80, 0x9F, 13⟩
  else if 0xE1 ≤ b ∧ b ≤ 0xEF then some ⟨2, 0x80, 0xBF, b - 0xE0⟩
  else if b = 0xF0 then some ⟨3, 0x90, 0xBF, 0⟩
  else if 0xF1 ≤ b ∧ b ≤ 0xF3 then some ⟨3, 0x80, 0xBF, b - 0xF0⟩
  else if b = 0xF4 then some ⟨3, 0x80, 0x8F, 4⟩
  else none

/-- An octet between characters: what it gives at once, and what it begins. -/
def first (b : Nat) : Text × Option Begun :=
  if b < 0x80 then ([Char.ofNat b], none)
  else match begin? b with
    | some begun => ([], some begun)
    | none => ([replacement], none)

/-- An octet after a character begun. -/
def next (begun : Begun) (b : Nat) : Text × Option Begun :=
  if begun.least ≤ b ∧ b ≤ begun.greatest then
    let bits := begun.bits * 64 + (b - 0x80)
    if begun.owed ≤ 1 then ([Char.ofNat bits], none)
    else ([], some ⟨begun.owed - 1, 0x80, 0xBF, bits⟩)
  else (replacement :: (first b).1, (first b).2)

/-- The text of pieces, after a character begun or between characters. -/
def decodeFrom : Option Begun → List Piece → Text
  | none, [] => []
  | some _, [] => [replacement]
  | none, .char c :: rest => c :: decodeFrom none rest
  | some _, .char c :: rest => replacement :: c :: decodeFrom none rest
  | none, .octet b :: rest => (first b).1 ++ decodeFrom (first b).2 rest
  | some begun, .octet b :: rest => (next begun b).1 ++ decodeFrom (next begun b).2 rest

/-- The text that a name or a value in a query string stands for. -/
def decode (t : Text) : Text :=
  decodeFrom none (piecesOf t)

def readField (field : Text) : Text × Text :=
  let (name, value) := cutAt '=' field
  (decode name, decode (value.getD []))

def read (t : Text) : List (Text × Text) :=
  ((t.splitOn '&').filter fun field => field ≠ []).map readField

/-- The greatest number of fields in the query string of a visit, unless a project sets another
or none. -/
def standardLimit : Option Nat := some 1000

/-- The pairs of a query string whose fields, the empty ones included, are within a limit. -/
def readLimited (limit : Option Nat) (t : Text) : Except Failure (List (Text × Text)) :=
  if limit.any fun n => n < (t.splitOn '&').length then .error .tooManyFields else .ok (read t)

end Listing.Form
