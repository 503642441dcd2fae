/-
  Where the tables go: next to the Markdown report, under names made from its
  stem.  A report path without a name has no such neighbours.
-/
import SiteAudit.Files.Path

namespace SiteAudit.Report

/-- The path of the routes table beside a report. -/
def routesCsvPath? (report : Files.Path) : Option Files.Path :=
  report.withName? (report.stem ++ "_routes.csv".toList)

/-- The path of the link table beside a report. -/
def linksCsvPath? (report : Files.Path) : Option Files.Path :=
  report.withName? (report.stem ++ "_links.csv".toList)

/-- The wording for a report path without a name. -/
def namelessMessage (report : Files.Path) : Text :=
  "PosixPath(".toList ++ Text.quoted report.text ++ ") has an empty name".toList

end SiteAudit.Report
