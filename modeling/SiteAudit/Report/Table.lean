/-
  The two tables of a report: their columns and their plain cells.
-/
import SiteAudit.Audit.Basic

namespace SiteAudit.Report

/-- The cell of a property that holds or not. -/
def yesNo (holds : Bool) : Text :=
  if holds then ['y', 'e', 's'] else ['n', 'o']

/-- The columns of the routes table, one for every role among them. -/
def routeColumns (roles : List Text) : List Text :=
  ["Route".toList, "RouteActive".toList, "Authorized".toList] ++ roles ++ ["File".toList]

/-- The cells of a route: a role asked for has a yes, any other a dash. -/
def routeCells (roles : List Text) (route : Route) : List Text :=
  [route.template, yesNo route.live, yesNo route.authorized] ++
    (roles.map fun role => if route.hasRole role then yesNo true else ['-']) ++ [route.file]

/-- A route has a cell in every column. -/
theorem length_routeCells (roles : List Text) (route : Route) :
    (routeCells roles route).length = (routeColumns roles).length := by
  simp [routeCells, routeColumns]

/-- The columns of the link table. -/
def linkColumns : List Text :=
  ["File".toList, "Line".toList, "Method".toList, "Scheme".toList, "Destination".toList,
    "Match".toList]

/-- The cells of a link. -/
def linkCells (link : Link) : List Text :=
  [link.file, Text.ofInt link.line, link.method, link.scheme, link.destination, link.verdict]

end SiteAudit.Report
