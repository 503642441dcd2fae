/-
  Sets of characters given by ranges of code points.
-/
import SiteAudit.Text.Basic

namespace SiteAudit.Text

/-- A set of characters as closed ranges of code points. -/
abbrev CharRanges := List (Nat × Nat)

/-- The character lies in one of the ranges. -/
def CharRanges.has (ranges : CharRanges) (c : Char) : Bool :=
  ranges.any fun r => decide (r.1 ≤ c.toNat) && decide (c.toNat ≤ r.2)

end SiteAudit.Text
