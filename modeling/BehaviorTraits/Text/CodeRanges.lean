/-!
# Sets of characters as ranges of code points

A character property of the Unicode standard is given by the ranges of code points that have it.
The tables of this library are such lists; membership is a scan over them.
-/

namespace BehaviorTraits.Text

/-- A set of characters, as inclusive ranges of code points. -/
abbrev CodeRanges := List (Nat × Nat)

/-- Does one of the ranges hold `c`? -/
def CodeRanges.holds (ranges : CodeRanges) (c : Char) : Bool :=
  ranges.any fun (first, last) => decide (first ≤ c.toNat) && decide (c.toNat ≤ last)

/-- A character is in a table if its code point lies in one of the ranges. -/
theorem CodeRanges.holds_iff {ranges : CodeRanges} {c : Char} :
    ranges.holds c = true ↔ ∃ r ∈ ranges, r.1 ≤ c.toNat ∧ c.toNat ≤ r.2 := by
  simp [CodeRanges.holds]

end BehaviorTraits.Text
