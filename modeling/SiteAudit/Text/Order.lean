/-
  The order of names in reports: by capital form, equal capital forms by the
  spelling itself.  In this order the low line follows the letters.

  `sortByCase` sorts by it; since two texts of equal rank are equal, the result
  depends on the names and not on how they were arranged.
-/
import SiteAudit.Text.Upper

namespace SiteAudit.Text

/-- The rank of two names: by capital form, then by spelling. -/
def caseOrder (a b : Text) : Ordering :=
  (compare (upper a) (upper b)).then (compare a b)

/-- The names in ascending order. -/
def sortByCase (names : List Text) : List Text :=
  names.mergeSort fun a b => (caseOrder a b).isLE

end SiteAudit.Text
