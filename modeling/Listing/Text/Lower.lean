import Listing.Text.Basic
import Listing.Text.Range
import Listing.Text.CaseTable

/-!
# Lower-case texts

The full lower-case mapping of a text. Each capital has one small letter, except that the
dotted capital I becomes an i with a combining dot, and that a capital sigma at the end of a
word becomes the final small sigma. So the mapping of a letter can depend on its neighbours,
and a text can grow.
-/

namespace Listing

/-- Whether a character is skipped when looking for the letter next to a sigma. -/
def isCaseIgnorable (c : Char) : Bool :=
  inRanges caseIgnorableRanges c.toNat

/-- Whether a character is a letter with case that is not skipped. -/
def isCased (c : Char) : Bool :=
  inRanges casedRanges c.toNat

/-- Whether a code point is one of the capitals of a run. -/
def CaseRun.covers (run : CaseRun) (code : Nat) : Bool :=
  run.first ≤ code && code ≤ run.last && (code - run.first) % run.stride == 0

/-- The small form of a single letter, apart from its neighbours. -/
def lowerLetter (c : Char) : Text :=
  if c.toNat = 0x130 then ['i', Char.ofNat 0x307]
  else match capitalRuns.find? (·.covers c.toNat) with
    | some run => [Char.ofNat (c.toNat + run.shift).toNat]
    | none => [c]

/-- Whether the nearest character that is not skipped is a letter with case. -/
def meetsLetter (t : Text) : Bool :=
  match t.dropWhile isCaseIgnorable with
  | [] => false
  | c :: _ => isCased c

/-- Whether a sigma between two texts ends a word: there is a letter before it and none
after it. The text before it is given from its end. -/
def endsWord (before after : Text) : Bool :=
  meetsLetter before && !meetsLetter after

/-- The lower-case form of a text that follows another one, which is given from its end. -/
def lowerAfter (before : Text) : Text → Text
  | [] => []
  | c :: rest =>
    (if c.toNat = 0x3A3 then [Char.ofNat (if endsWord before rest then 0x3C2 else 0x3C3)]
      else lowerLetter c) ++ lowerAfter (c :: before) rest

def lower (t : Text) : Text :=
  lowerAfter [] t

@[simp] theorem lower_nil : lower [] = [] := rfl

end Listing
