/-!
# Sets of characters given by code point ranges

The character classes of the Unicode standard are kept as lists of closed ranges, in increasing
order, as of version 14.0 of the standard.
-/
namespace SubspaceOps.Text

/-- Closed intervals of code points. -/
abbrev CodeRanges := List (Nat × Nat)

/-- A character lies in one of the ranges. -/
def CodeRanges.has (rs : CodeRanges) (c : Char) : Bool :=
  rs.any fun r => r.1 ≤ c.toNat && c.toNat ≤ r.2

theorem CodeRanges.has_iff (rs : CodeRanges) (c : Char) :
    rs.has c = true ↔ ∃ r ∈ rs, r.1 ≤ c.toNat ∧ c.toNat ≤ r.2 := by
  simp [CodeRanges.has]

end SubspaceOps.Text
