/-
  The catalogue of a site: the templates of its live routes, each once.

  Two templates that are spellings of one name count as one, in the spelling of
  the first live route.
-/
import SiteAudit.Route.Basic
import SiteAudit.Route.Template

namespace SiteAudit.Route

/-- Templates of live routes, no two of them spellings of one name. -/
abbrev Catalogue := List Text

namespace Catalogue

/-- The catalogue of a list of routes. -/
def ofRoutes (routes : List Route) : Catalogue :=
  Text.firstSpellings ((routes.filter (·.live)).map (·.template))

/-- Some template of the catalogue matches the path. -/
def covers (catalogue : Catalogue) (path : Text) : Bool :=
  catalogue.any fun template => Template.matchesPath template path

end Catalogue

end SiteAudit.Route
