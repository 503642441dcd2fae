/-
  The tables as comma-separated values: one record a line, a field in double
  quotes exactly if it holds a comma, a double quote or a line feed, and then
  with its double quotes written twice.  On some platforms a carriage return puts
  a field in quotes as well.
-/
import SiteAudit.Report.Number
import SiteAudit.Report.Table

namespace SiteAudit.Report.Csv

/-- A character that a field can hold only between quotes. -/
def needsQuotes [Platform] (c : Char) : Bool :=
  c == ',' || c == '"' || c == '\n' || (c == '\r' && Platform.quotesReturns)

/-- A field as written. -/
def field [Platform] (s : Text) : Text :=
  if s.any needsQuotes then '"' :: Text.replaceChar '"' ['"', '"'] s ++ ['"'] else s

/-- A record as written. -/
def record [Platform] (fields : List Text) : Text :=
  Text.joinWith [','] (fields.map field) ++ ['\n']

/-- Records as written. -/
def records [Platform] (rows : List (List Text)) : Text :=
  rows.flatMap record

/-- The routes table. -/
def renderRoutes [Platform] (audit : Audit) : Text :=
  records (routeColumns audit.roles :: audit.routes.map (routeCells audit.roles))

/-- The link table, if the lines of the links can be written. -/
def renderLinks [Platform] (audit : Audit) : Except LongNumber Text :=
  ifWritten audit (records (linkColumns :: audit.links.map linkCells))

end SiteAudit.Report.Csv
