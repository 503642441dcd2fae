/-
  Finding links in the lines of a file.

  * `anchor` is an opening anchor tag up to the value of the last `href` that
    stands before the tag's first closing angle bracket;
  * `navigation` is a call of `NavigateTo` up to its quoted first argument;
  * `ofLines` lists the links of a file: line by line, in a line the anchors
    before the calls, each from left to right.
-/
import SiteAudit.Link.Basic
import SiteAudit.Text.Phrase

namespace SiteAudit.Link

/-! ## Idioms -/

/-- The word of the attribute that names a destination. -/
def hrefWord : Text :=
  ['h', 'r', 'e', 'f']

/-- A `href` word that begins here, an equals sign and a quoted value; what is
    read is the value. -/
def hrefHere? : Text.Form Text :=
  Text.phrase? hrefWord '='

/-- The last `href` with a value that begins before the first closing angle
    bracket. -/
def lastHref? (before : Option Char) : Text → Option (Text × Text)
  | [] => none
  | c :: cs =>
    (if c = '>' then none else lastHref? (some c) cs) <|> hrefHere? before (c :: cs)

/-- An opening anchor tag; what is read is the value of its `href`. -/
def anchor : Text.Form Text := fun _ s =>
  match s with
  | '<' :: rest => do
    let afterName ← Text.dropWord? ['a'] (Text.trimLeft rest)
    if afterName.head?.any Text.isWord then none else lastHref? (some 'a') afterName
  | _ => none

/-- A navigation call; what is read is its quoted argument. -/
def navigation : Text.Form Text :=
  Text.phrase? Idiom.navigateTo.label '('

/-! ## Links of a file -/

/-- The link with a destination as it stands in the source. -/
def ofDestination (catalogue : Route.Catalogue) (file : Text) (line : Int) (idiom : Idiom)
    (raw : Text) : Link :=
  let destination := Text.trim raw
  { file, line, destination
    method := idiom.label
    scheme := Destination.scheme destination
    verdict := (Destination.verdict catalogue destination).label }

/-- The links of one line: anchors, then calls. -/
def ofLine (catalogue : Route.Catalogue) (file : Text) (number : Int) (line : Text) : List Link :=
  (Text.readings anchor line).map (ofDestination catalogue file number .href) ++
    (Text.readings navigation line).map (ofDestination catalogue file number .navigateTo)

/-- The links of the lines from a given line number on. -/
def ofLinesFrom (catalogue : Route.Catalogue) (file : Text) (number : Int) :
    List Text → List Link
  | [] => []
  | line :: lines =>
    ofLine catalogue file number line ++ ofLinesFrom catalogue file (number + 1) lines

/-- The links of a file. -/
def ofLines (catalogue : Route.Catalogue) (file : Text) (lines : List Text) : List Link :=
  ofLinesFrom catalogue file 1 lines

end SiteAudit.Link
