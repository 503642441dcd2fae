/-
  Spellings of one name: texts with equal folded forms.

  `firstSpellings` keeps of every name the first spelling, in order of first
  occurrence.
-/
import SiteAudit.Text.Fold

namespace SiteAudit.Text

/-- The two texts are spellings of one name. -/
def sameName (a b : Text) : Bool :=
  fold a == fold b

/-- Of every name the first spelling, in order. -/
def firstSpellings : List Text → List Text
  | [] => []
  | a :: rest => a :: (firstSpellings rest).filter fun b => !sameName a b

end SiteAudit.Text
