import Listing.Text.Digit

/-!
# Moments

A moment is written `YYYY-MM-DDTHH:MM:SS`, with six digits of a second's fraction after a
point if it has one, and an offset `+HH:MM` (with seconds and a fraction if it has those) if
it belongs to a zone. A moment that is given in a shorter writing is written out in full. Two
moments with offsets are compared by the instant they name; a moment with an offset never
equals one without.
-/

namespace Listing

def numberAt (t : Text) (start count : Nat) : Nat :=
  digitsValue ((t.drop start).take count)

def isLeapYear (year : Nat) : Bool :=
  year % 4 == 0 && (year % 100 != 0 || year % 400 == 0)

def daysBeforeMonth (year month : Nat) : Nat :=
  let lengths := [31, if isLeapYear year then 29 else 28, 31, 30, 31, 30, 31, 31, 30, 31, 30, 31]
  (lengths.take (month - 1)).foldl (· + ·) 0

/-- The number of a day, counted from the start of the first year. -/
def dayNumber (year month day : Nat) : Nat :=
  let past := year - 1
  365 * past + past / 4 - past / 100 + past / 400 + daysBeforeMonth year month + (day - 1)

/-- Microseconds of a time of day `HH:MM`, with `:SS` and `.ffffff` where they are present. -/
def clockMicroseconds (t : Text) : Nat :=
  ((numberAt t 0 2 * 60 + numberAt t 3 2) * 60 + numberAt t 6 2) * 1000000 + numberAt t 9 6

/-- Whether a character cannot start the offset of a moment. -/
def isClockChar (c : Char) : Bool :=
  c ≠ '+' && c ≠ '-'

/-- Six digits: a run of digits cut, or filled up with zeros. -/
def sixDigits (t : Text) : Text :=
  (t ++ List.replicate 6 '0').take 6

/-- The six digits of hours, minutes and seconds in a time of day, and those of the fraction.
The separators, the end of the digits, and the fraction may be absent. -/
def clockDigits (t : Text) : Text × Text :=
  let (whole, fraction) := cutAt '.' (t.map fun c => if c = ',' then '.' else c)
  (sixDigits (whole.filter fun c => c ≠ ':'), sixDigits (fraction.getD []))

/-- A fraction after its point, or nothing if it is zero. -/
def shownFraction (digits : Text) : Text :=
  if digits.all (· = '0') then [] else '.' :: digits

/-- Hours and minutes with a colon between them. -/
def hoursMinutes (digits : Text) : Text :=
  digits.take 2 ++ ':' :: (digits.drop 2).take 2

/-- A time of day in full. -/
def fullClock (t : Text) : Text :=
  let (digits, fraction) := clockDigits t
  hoursMinutes digits ++ ':' :: digits.drop 4 ++ shownFraction fraction

/-- An offset in full, with its sign. Seconds and a fraction stand in it if they are not zero.
An offset without whole seconds is the zero offset, which has a plus and may be given as `Z`.
-/
def fullOffset : Text → Text
  | [] => []
  | sign :: t =>
    let (digits, fraction) := clockDigits (if sign = 'Z' then [] else t)
    let seconds := digits.drop 4
    if digits.all (· = '0') then "+00:00"
    else if (seconds ++ fraction).all (· = '0') then sign :: hoursMinutes digits
    else sign :: hoursMinutes digits ++ ':' :: seconds ++ shownFraction fraction

/-- A moment in full: any character may stand between its date and its time, and the time may
be cut short or absent. -/
def fullMoment (t : Text) : Text :=
  let time := t.drop 11
  let startsOffset (c : Char) : Bool := !isClockChar c || c = 'Z'
  t.take 10 ++ 'T' :: fullClock (time.takeWhile fun c => !startsOffset c)
    ++ fullOffset (time.dropWhile fun c => !startsOffset c)

def clockOf (t : Text) : Text :=
  (t.drop 11).takeWhile isClockChar

/-- The offset of a moment in microseconds, if it has one. -/
def offsetOf (t : Text) : Option Int :=
  match (t.drop 11).dropWhile isClockChar with
  | '+' :: offset => some (clockMicroseconds offset)
  | '-' :: offset => some (-(clockMicroseconds offset : Int))
  | _ => none

/-- What a moment names: microseconds, and whether an offset fixes them to an instant. -/
structure Instant where
  fixed : Bool
  microseconds : Int
deriving DecidableEq

/-- The instant that the text of a moment names. -/
def instantOf (t : Text) : Instant :=
  let days := dayNumber (numberAt t 0 4) (numberAt t 5 2) (numberAt t 8 2)
  let here : Int := days * 86400000000 + clockMicroseconds (clockOf t)
  match offsetOf t with
  | some offset => ⟨true, here - offset⟩
  | none => ⟨false, here⟩

/-- Numbers and named parts between the brackets of a literal. -/
def literalOf (name : Text) (parts : List Text) : Text :=
  name ++ ['('] ++ joinWith ", " parts ++ [')']

def dateParts (t : Text) : List Text :=
  [natText (numberAt t 0 4), natText (numberAt t 5 2), natText (numberAt t 8 2)]

def dateLiteral (t : Text) : Text :=
  literalOf "datetime.date" (dateParts t)

/-- A part of a literal under a name, left out if it is zero. -/
def namedPart (name : Text) (n : Int) : List Text :=
  if n = 0 then [] else [name ++ ['='] ++ intText n]

/-- The offset of a moment as a literal: days, which may be negative, then a positive rest. -/
def offsetLiteral (offset : Int) : Text :=
  if offset = 0 then "datetime.timezone.utc"
  else
    let rest := offset % 86400000000
    literalOf "datetime.timezone" [literalOf "datetime.timedelta"
      (namedPart "days" (offset / 86400000000) ++ namedPart "seconds" (rest / 1000000)
        ++ namedPart "microseconds" (rest % 1000000))]

/-- A moment as a literal. Seconds stand in it if they or their fraction are not zero, and
the fraction if it is not zero. -/
def momentLiteral (t : Text) : Text :=
  let clock := clockOf t
  let second := numberAt clock 6 2
  let fraction := numberAt clock 9 6
  literalOf "datetime.datetime"
    (dateParts t ++ [natText (numberAt clock 0 2), natText (numberAt clock 3 2)]
      ++ (if second = 0 ∧ fraction = 0 then [] else [natText second])
      ++ (if fraction = 0 then [] else [natText fraction])
      ++ ((offsetOf t).map fun offset => "tzinfo=".toList ++ offsetLiteral offset).toList)

end Listing
