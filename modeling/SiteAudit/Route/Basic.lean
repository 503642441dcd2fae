/-
  Routes: page declarations together with the file they stand in and the access
  rule of that file.

  `inReportOrder` is the order of the routes table: by template, then by file,
  both compared by capital form; routes of equal rank keep their order.
-/
import SiteAudit.Text.Order
import SiteAudit.Text.Spelling

namespace SiteAudit

/-- One declared route. -/
structure Route where
  /-- The template as written. -/
  template : Text
  /-- The declaration stands outside all comments. -/
  live : Bool
  /-- The file asks for an authorized user. -/
  authorized : Bool
  /-- The roles asked for; none means any authorized user. -/
  roles : List Text
  /-- The file, relative to the root. -/
  file : Text
  deriving DecidableEq

namespace Route

/-- The route asks for the role, in any spelling. -/
def hasRole (route : Route) (role : Text) : Bool :=
  route.roles.any (Text.sameName role)

/-- Every role that some route asks for: first spellings, in report order. -/
def roleVocabulary (routes : List Route) : List Text :=
  Text.sortByCase (Text.firstSpellings (routes.flatMap (·.roles)))

/-- The rank of two routes in the routes table. -/
def reportOrder (a b : Route) : Ordering :=
  (compare (Text.upper a.template) (Text.upper b.template)).then
    (compare (Text.upper a.file) (Text.upper b.file))

/-- The routes as the routes table lists them. -/
def inReportOrder (routes : List Route) : List Route :=
  routes.mergeSort fun a b => (reportOrder a b).isLE

end Route

end SiteAudit
