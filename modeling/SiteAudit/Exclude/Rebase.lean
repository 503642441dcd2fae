/-
  Rebasing: a rule line of a nested directory as a line for the root.

  A pattern that was anchored at the directory, by a slash in front or inside,
  is anchored below the directory's path; a pattern without such a slash applies
  at any depth below it.  Negation stays in front; blank lines and comments are
  not changed.
-/
import SiteAudit.Text.Blank

namespace SiteAudit.Exclude

/-- The pattern, without negation, anchored below a directory. -/
def rebasedPattern (base pattern : Text) : Text :=
  if Text.startsWith ['/'] pattern then '/' :: base ++ pattern
  else if (pattern.reverse.dropWhile (· == '/')).contains '/' then '/' :: base ++ '/' :: pattern
  else '/' :: base ++ ['/', '*', '*', '/'] ++ pattern

/-- The line of the directory `base` as a line for the root. -/
def rebase (base line : Text) : Text :=
  if base = [] || Text.isAllBlank line || Text.startsWith ['#'] line || line = ['!'] then line
  else match line with
    | '!' :: pattern => '!' :: rebasedPattern base pattern
    | pattern => rebasedPattern base pattern

end SiteAudit.Exclude
