/-!
# Ranges of code points

A character class is a list of closed ranges of code points; membership is a walk over the list.
-/

namespace Fieldwise.Text

/-- A closed range of code points, first and last. -/
abbrev CodeRange := Nat × Nat

namespace CodeRange

/-- Membership of a code point in one range. -/
def holds (range : CodeRange) (code : Nat) : Bool := range.1 ≤ code && code ≤ range.2

/-- Membership of a character in one of the ranges. -/
def covers (ranges : List CodeRange) (c : Char) : Bool := ranges.any (·.holds c.toNat)

/-- Ranges cover a character exactly when one of them has it. -/
theorem covers_iff {ranges : List CodeRange} {c : Char} :
    covers ranges c = true ↔ ∃ r ∈ ranges, r.1 ≤ c.toNat ∧ c.toNat ≤ r.2 := by
  simp [covers, holds]

end CodeRange

end Fieldwise.Text
