/-
  The Markdown report: the routes table, then the link table.

  In the link table a destination is emphasised by its idiom and a verdict is
  coloured; a link whose idiom or verdict has no such form has no report.
-/
import SiteAudit.Report.Table
import SiteAudit.Text.Quoted

namespace SiteAudit.Report.Markdown

/-- A label that has no form in the report. -/
structure UnknownLabel where
  label : Text
  deriving DecidableEq

/-- The wording of the fault. -/
def UnknownLabel.message (fault : UnknownLabel) : Text :=
  Text.quoted fault.label

/-- The marks around a destination. -/
def emphasis : Link.Idiom → Text × Text
  | .href => ("<u><em>".toList, "</em></u>".toList)
  | .navigateTo => ("<strong>".toList, "</strong>".toList)

/-- The colour of a verdict. -/
def colour : Link.Verdict → Text
  | .external => "blue".toList
  | .matched => "green".toList
  | .unknown => "red".toList

/-- The text with a backslash before every bar. -/
def escapeBars (s : Text) : Text :=
  Text.replaceChar '|' ['\\', '|'] s

/-- The cell of a destination. -/
def destinationCell (link : Link) : Except UnknownLabel Text :=
  match Link.Idiom.ofLabel? link.method with
  | some idiom => .ok ((emphasis idiom).1 ++ escapeBars link.destination ++ (emphasis idiom).2)
  | none => .error ⟨link.method⟩

/-- The cell of a verdict. -/
def verdictCell (label : Text) : Except UnknownLabel Text :=
  match Link.Verdict.ofLabel? label with
  | some verdict =>
    .ok ("<span style=\"color:".toList ++ colour verdict ++ "\">".toList ++ verdict.label ++
      "</span>".toList)
  | none => .error ⟨label⟩

/-- A line of a table. -/
def row (cells : List Text) : Text :=
  ['|', ' '] ++ Text.joinWith [' ', '|', ' '] cells ++ [' ', '|']

/-- The two lines at the head of a table. -/
def head (columns : List Text) : List Text :=
  [row columns, row (columns.map fun _ => ['-', '-', '-'])]

/-- The line of a link. -/
def linkRow (link : Link) : Except UnknownLabel Text := do
  let destination ← destinationCell link
  let verdict ← verdictCell link.verdict
  .ok (row [link.file, Text.ofInt link.line, link.method, link.scheme, destination, verdict])

/-- The lines of links in order; the first fault counts. -/
def linkRows : List Link → Except UnknownLabel (List Text)
  | [] => .ok []
  | link :: links => do
    let first ← linkRow link
    let others ← linkRows links
    .ok (first :: others)

/-- The lines before the link table. -/
def routesSection (audit : Audit) : List Text :=
  ["## Routes".toList, []] ++ head (routeColumns audit.roles) ++
    audit.routes.map fun route => row (routeCells audit.roles route)

/-- The report. -/
def render (audit : Audit) : Except UnknownLabel Text := do
  let rows ← linkRows audit.links
  let lines := routesSection audit ++ [[], [], "## Link Scan".toList, []] ++ head linkColumns ++
    rows ++ [[]]
  .ok (Text.joinWith ['\n'] lines ++ ['\n'])

end SiteAudit.Report.Markdown
