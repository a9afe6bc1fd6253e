import Listing.Text.Blank

/-!
# Comma lists

Lists of filters and of sorts are written with commas. In a list of filters a backslash before
a comma keeps the comma in the item; no other escape exists, and a backslash elsewhere stands
for itself. A list of sorts has no escapes, and its items are trimmed.
-/

namespace Listing.CommaList

/-- A text with each of its commas after a backslash. -/
def escape (t : Text) : Text :=
  t.flatMap fun c => if c = ',' then ['\\', ','] else [c]

/-- A text with each backslash before a comma removed. -/
def unescape : Text → Text
  | [] => []
  | '\\' :: ',' :: rest => ',' :: unescape rest
  | c :: rest => c :: unescape rest

/-- The pieces of a text between the commas that do not follow a backslash, for a text that
itself follows a backslash or does not. -/
def piecesAfter (backslash : Bool) : Text → List Text
  | [] => [[]]
  | c :: rest =>
    if c = ',' ∧ !backslash then [] :: piecesAfter false rest
    else
      match piecesAfter (c = '\\') rest with
      | [] => [[c]]
      | piece :: pieces => (c :: piece) :: pieces

def pieces (t : Text) : List Text :=
  piecesAfter false t

/-- The items of a list of filters. The empty text is the list without items. -/
def splitFilters (t : Text) : List Text :=
  if t.isEmpty then [] else (pieces t).map unescape

/-- The items of a list of sorts, trimmed. The empty text is the list without items. -/
def splitSorts (t : Text) : List Text :=
  if t.isEmpty then [] else (t.splitOn ',').map trim

theorem piecesAfter_ne_nil (backslash : Bool) (t : Text) : piecesAfter backslash t ≠ [] := by
  cases t with
  | nil => simp [piecesAfter]
  | cons c rest =>
    unfold piecesAfter
    split
    · simp
    · split <;> simp

/-- The pieces joined by commas are the text: splitting loses nothing. -/
theorem intercalate_piecesAfter (backslash : Bool) (t : Text) :
    [','].intercalate (piecesAfter backslash t) = t := by
  induction t generalizing backslash with
  | nil => simp [piecesAfter]
  | cons c rest ih =>
    unfold piecesAfter
    split
    · next h =>
      have parts := ih false
      cases split : piecesAfter false rest with
      | nil => exact absurd split (piecesAfter_ne_nil _ _)
      | cons piece more => rw [split] at parts; simp [h.1, ← parts, List.intercalate]
    · have parts := ih (c = '\\')
      cases split : piecesAfter (c = '\\') rest with
      | nil => exact absurd split (piecesAfter_ne_nil _ _)
      | cons piece more =>
        rw [split] at parts
        cases more <;> simp_all [List.intercalate]

end Listing.CommaList
