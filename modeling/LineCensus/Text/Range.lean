/-!
# `Text.Range` — properties of characters as lists of code point ranges

A property of the Unicode character database is kept as the list of its maximal ranges, both ends
included, in rising order.

## Contents

* `Ranges` — the list, and `Ranges.has`, membership of a character;
* `Ranges.has_iff` — membership said without the search.
-/

namespace LineCensus.Text

/-- Ranges of code points, both ends included. -/
abbrev Ranges := List (Nat × Nat)

/-- Whether the character's code point lies in one of the ranges. -/
def Ranges.has (ranges : Ranges) (c : Char) : Bool :=
  ranges.any fun range => range.1 ≤ c.toNat && c.toNat ≤ range.2

theorem Ranges.has_iff {ranges : Ranges} {c : Char} :
    ranges.has c = true ↔ ∃ range ∈ ranges, range.1 ≤ c.toNat ∧ c.toNat ≤ range.2 := by
  simp [Ranges.has, List.any_eq_true]

end LineCensus.Text
