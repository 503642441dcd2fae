/-
  Page declarations: `@page`, blanks, and a template between double quotes.

  * `form` reads one declaration; the word may be in any case and the template
    is not empty;
  * `ofText` lists the declarations of a text from left to right.  A
    declaration is live unless it begins inside a comment.
-/
import SiteAudit.Page.Comment
import SiteAudit.Text.Blank
import SiteAudit.Text.Enclosed
import SiteAudit.Text.SameLetter

namespace SiteAudit.Page

/-- One page declaration of a text. -/
structure Declaration where
  /-- The template as written. -/
  template : Text
  /-- The declaration begins outside all comments. -/
  live : Bool
  /-- Where the declaration begins. -/
  offset : Nat
  deriving DecidableEq

namespace Declaration

/-- The word that opens a declaration. -/
def word : Text :=
  ['@', 'p', 'a', 'g', 'e']

/-- A declaration; what is read is its template. -/
def form : Text.Form Text := fun _ s => do
  let afterWord ← Text.dropWord? word s
  match Text.trimLeft afterWord with
  | '"' :: quoted =>
    let (template, rest) ← Text.upTo? '"' quoted
    if template = [] then none else some (template, rest)
  | _ => none

/-- The declarations of a text, from left to right. -/
def ofText (s : Text) : List Declaration :=
  let comments := Comment.spans s
  (Text.finds form s).map fun f => ⟨f.value, !Comment.covers comments f.start, f.start⟩

end Declaration

end SiteAudit.Page
