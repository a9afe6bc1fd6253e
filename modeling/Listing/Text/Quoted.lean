import Listing.Text.Basic
import Listing.Text.Range
import Listing.Text.PrintableTable

/-!
# Quoted texts

A text as a literal: between single quotes, or between double quotes if it holds a single
quote and no double one. The quote in use, the backslash and every character without a
printed form are escaped.
-/

namespace Listing

/-- Whether a character has a printed form of its own. -/
def isPrintable (c : Char) : Bool :=
  !inRanges unprintableRanges c.toNat

/-- The lower-case hexadecimal digits of a number, filled up with zeros to a width. -/
def hexPadded (width n : Nat) : Text :=
  let digits := Nat.toDigits 16 n
  List.replicate (width - digits.length) '0' ++ digits

/-- The escape of a code point by its number, in two, four or eight digits. -/
def numericEscape (code : Nat) : Text :=
  if code < 0x100 then '\\' :: 'x' :: hexPadded 2 code
  else if code < 0x10000 then '\\' :: 'u' :: hexPadded 4 code
  else '\\' :: 'U' :: hexPadded 8 code

/-- One character inside quotes. -/
def quotedChar (quote c : Char) : Text :=
  if c = quote || c = '\\' then ['\\', c]
  else if c = '\n' then ['\\', 'n']
  else if c = '\r' then ['\\', 'r']
  else if c = '\t' then ['\\', 't']
  else if isPrintable c then [c]
  else numericEscape c.toNat

/-- The quote around a text: the single one, unless only that one occurs in it. -/
def chosenQuote (t : Text) : Char :=
  if t.contains '\'' && !t.contains '"' then '"' else '\''

/-- The text as a quoted literal. -/
def quoted (t : Text) : Text :=
  let quote := chosenQuote t
  quote :: t.flatMap (quotedChar quote) ++ [quote]

end Listing
