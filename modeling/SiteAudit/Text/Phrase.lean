/-
  Reading phrases: a word, a sign and a quoted value, with blanks around the sign.
-/
import SiteAudit.Text.Blank
import SiteAudit.Text.Enclosed
import SiteAudit.Text.SameLetter
import SiteAudit.Text.Scan
import SiteAudit.Text.Word

namespace SiteAudit.Text

/-- A sign and a value in quotes, with blanks before and behind the sign; what is
    read is the value. -/
def signedValue? (sign : Char) (s : Text) : Option (Text × Text) :=
  match trimLeft s with
  | c :: behind => if c = sign then quotedValue? (trimLeft behind) else none
  | [] => none

/-- A phrase that begins where a word may begin; what is read is its value. -/
def phrase? (word : Text) (sign : Char) : Form Text := fun before s =>
  if isBoundary before s.head? then (dropWord? word s).bind (signedValue? sign) else none

end SiteAudit.Text
