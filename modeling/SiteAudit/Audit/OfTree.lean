/-
  The audit of a file tree, and the events on the way to it.
-/
import SiteAudit.Audit.Basic
import SiteAudit.Source.Discovery

namespace SiteAudit.Audit

/-- Why a tree has no audit. -/
inductive Fault where
  /-- The root is not a directory. -/
  | rootMissing (root : Files.Path)
  /-- Something cannot be looked at, or lies too deep. -/
  | unreachable (fault : Files.Fault)
  deriving DecidableEq

/-- The wording for a root that is not a directory. -/
def rootMissingMessage (root : Files.Path) : Text :=
  "Root folder not found: ".toList ++ root.text

/-- The wording of a fault. -/
def Fault.message : Fault → Text
  | rootMissing root => rootMissingMessage root
  | unreachable fault => fault.message

/-- What keeps a root from being audited, as far as it shows from the root
    alone. -/
def rootFault? (tree : Files.Tree) (root : Files.Path) : Option Fault :=
  match tree.lookFault? root with
  | some fault => some (.unreachable fault)
  | none => if tree.isDirectory root then none else some (.rootMissing root)

/-- The audit of the files below a root. -/
def ofTree [Platform] (tree : Files.Tree) (root : Files.Path) (rules : List Exclude.Rule) :
    Except Fault Audit :=
  match rootFault? tree root with
  | some fault => .error fault
  | none => do
    let pages ← (Source.ofTree .pages tree root Source.pageSuffixes rules).mapError .unreachable
    let linked ← (Source.ofTree .links tree root Source.linkSuffixes rules).mapError .unreachable
    .ok (ofSources pages linked)

/-! ## Events -/

/-- What happens when the links are found. -/
def linkEvents [Platform] (tree : Files.Tree) (root : Files.Path) (rules : List Exclude.Rule)
    (catalogue : Route.Catalogue) : List Event :=
  Source.eventsOfTree .links tree root Source.linkSuffixes rules ++
    match Source.ofTree .links tree root Source.linkSuffixes rules with
    | .error _ => []
    | .ok linked => [.linksFound root (Link.ofSources catalogue linked).length]

/-- What happens when the routes are found, and after that the links. -/
def routeEvents [Platform] (tree : Files.Tree) (root : Files.Path) (rules : List Exclude.Rule) :
    List Event :=
  Source.eventsOfTree .pages tree root Source.pageSuffixes rules ++
    match Source.ofTree .pages tree root Source.pageSuffixes rules with
    | .error _ => []
    | .ok pages =>
      let routes := Route.ofSources pages
      let catalogue := Route.Catalogue.ofRoutes routes
      [.catalogueMade catalogue.length,
        .routesFound root routes.length catalogue.length (Route.roleVocabulary routes).length] ++
        linkEvents tree root rules catalogue

/-- What happens during the audit. -/
def eventsOfTree [Platform] (tree : Files.Tree) (root : Files.Path) (rules : List Exclude.Rule) :
    List Event :=
  match rootFault? tree root with
  | some _ => []
  | none => routeEvents tree root rules

end SiteAudit.Audit
