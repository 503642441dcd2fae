/-
  Blank characters and trimming.

  * `isBlank` holds of the twenty-nine characters that count as white space:
    the control characters that move the position, the separators of the
    information-separator block, the next-line mark and every Unicode space,
    line and paragraph separator;
  * `trim` drops blanks at both ends.
-/
import SiteAudit.Text.Basic

namespace SiteAudit.Text

/-- White space. -/
def isBlank (c : Char) : Bool :=
  let n := c.toNat
  (9 ≤ n && n ≤ 13) || (28 ≤ n && n ≤ 32) || n == 0x85 || n == 0xa0 || n == 0x1680 ||
    (0x2000 ≤ n && n ≤ 0x200a) || n == 0x2028 || n == 0x2029 || n == 0x202f ||
    n == 0x205f || n == 0x3000

/-- The text from its first character that is not blank. -/
def trimLeft (s : Text) : Text :=
  s.dropWhile isBlank

/-- The text up to its last character that is not blank. -/
def trimRight (s : Text) : Text :=
  (s.reverse.dropWhile isBlank).reverse

/-- The text without the blanks at its two ends. -/
def trim (s : Text) : Text :=
  trimRight (trimLeft s)

/-- The text has no character other than blanks. -/
def isAllBlank (s : Text) : Bool :=
  s.all isBlank

end SiteAudit.Text
