/-
  Lines of a text.

  * `withLineFeeds` writes every line end as a line feed: a carriage return
    with the line feed after it, or a carriage return alone;
  * `lines` cuts at line feeds, `ruleLines` at every character that ends a line
    of a rule file; an empty piece after the last line end is no line.
-/
import SiteAudit.Text.Basic

namespace SiteAudit.Text

/-- The text with a line feed for every line end. -/
def withLineFeeds : Text → Text
  | [] => []
  | '\r' :: '\n' :: cs => '\n' :: withLineFeeds cs
  | c :: cs => (if c = '\r' then '\n' else c) :: withLineFeeds cs

/-- The pieces between line ends, less an empty one at the end. -/
def linesBy (isEnd : Char → Bool) (s : Text) : List Text :=
  let pieces := splitWhere isEnd s
  if pieces.getLast? = some [] then pieces.dropLast else pieces

/-- The lines of a source file. -/
def lines (s : Text) : List Text :=
  linesBy (· == '\n') s

/-- A character that ends a line of a rule file. -/
def isRuleLineEnd (c : Char) : Bool :=
  let n := c.toNat
  (10 ≤ n && n ≤ 13) || (0x1c ≤ n && n ≤ 0x1e) || n == 0x85 || n == 0x2028 || n == 0x2029

/-- The lines of a rule file, whose line ends are line feeds. -/
def ruleLines (s : Text) : List Text :=
  linesBy isRuleLineEnd s

end SiteAudit.Text
