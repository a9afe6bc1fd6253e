/-!
# Ranges of code points

Character classes of the Unicode standard are kept as ascending lists of closed ranges of
code points; `inRanges` is membership.
-/

namespace Listing

/-- Whether a code point lies in one of the closed ranges. -/
def inRanges (table : List (Nat × Nat)) (code : Nat) : Bool :=
  table.any fun range => range.1 ≤ code && code ≤ range.2

theorem inRanges_iff (table : List (Nat × Nat)) (code : Nat) :
    inRanges table code = true ↔ ∃ range ∈ table, range.1 ≤ code ∧ code ≤ range.2 := by
  simp [inRanges]

end Listing
