/-
  Comments of a page: `@*` up to the first `*@`.

  * `spans` are the comments of a text, as closed intervals of offsets;
  * a comment does not nest, its closing mark begins at least two characters
    after its start (so `@*@` closes nothing), and an opening mark without a
    closing one starts no comment;
  * `covers` says whether an offset lies in a comment.
-/
import SiteAudit.Text.Scan

namespace SiteAudit.Page.Comment

/-- The offsets of the first and the last character of a comment. -/
structure Span where
  first : Nat
  last : Nat
  deriving DecidableEq

/-- What follows the first closing mark. -/
def afterClose? : Text → Option Text
  | '*' :: '@' :: rest => some rest
  | _ :: rest => afterClose? rest
  | [] => none

/-- A comment, from its opening to its closing mark. -/
def form : Text.Form Unit
  | _, '@' :: '*' :: rest => (afterClose? rest).map fun after => ((), after)
  | _, _ => none

/-- The comments of a text, from left to right. -/
def spans (s : Text) : List Span :=
  (Text.finds form s).map fun f => ⟨f.start, f.stop - 1⟩

/-- The offset is that of a character of the comment. -/
def Span.contains (span : Span) (offset : Int) : Bool :=
  decide (span.first ≤ offset) && decide (offset ≤ span.last)

/-- The offset lies in one of the comments. -/
def covers (spans : List Span) (offset : Int) : Bool :=
  spans.any (·.contains offset)

end SiteAudit.Page.Comment
