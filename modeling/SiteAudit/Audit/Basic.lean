/-
  Audits: what is found out about a site.

  * `Route.ofSources` are the routes of sources in the order in which they are
    declared, `Link.ofSources` the links;
  * `Audit.ofSources` brings both into report order; links are looked up in the
    catalogue of all routes.
-/
import SiteAudit.Link.Occurrence
import SiteAudit.Page.Access
import SiteAudit.Page.Declaration
import SiteAudit.Source.Basic

namespace SiteAudit

/-- The routes of one source; all carry the access rule of the whole file. -/
def Route.ofSource (source : Source) : List Route :=
  let access := Page.Access.ofText source.text
  (Page.Declaration.ofText source.text).map fun declaration =>
    { template := declaration.template
      live := declaration.live
      authorized := access.authorized
      roles := access.roles
      file := source.file }

/-- The routes of sources, in the order of declaration. -/
def Route.ofSources (sources : List Source) : List Route :=
  sources.flatMap Route.ofSource

/-- The links of one source. -/
def Link.ofSource (catalogue : Route.Catalogue) (source : Source) : List Link :=
  Link.ofLines catalogue source.file (Text.lines source.text)

/-- The links of sources, in the order of occurrence. -/
def Link.ofSources (catalogue : Route.Catalogue) (sources : List Source) : List Link :=
  sources.flatMap (Link.ofSource catalogue)

/-- What is found out about a site. -/
structure Audit where
  routes : List Route
  /-- The roles that some route asks for. -/
  roles : List Text
  links : List Link
  deriving DecidableEq

/-- The audit of the sources that declare routes and of those that hold
    links. -/
def Audit.ofSources (pages linked : List Source) : Audit :=
  let routes := Route.ofSources pages
  { routes := Route.inReportOrder routes
    roles := Route.roleVocabulary routes
    links := Link.inReportOrder (Link.ofSources (Route.Catalogue.ofRoutes routes) linked) }

end SiteAudit
