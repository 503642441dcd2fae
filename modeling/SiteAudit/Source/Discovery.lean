/-
  Discovery: the files of a site that take part in an audit.

  * `candidates` are the files below a root whose suffix is accepted, in the
    order of their paths, name by name, and `selected` are those of them that no
    rule excludes;
  * `discover` answers the selected files, unless something below the root
    cannot be looked at or lies too deep;
  * `ofTree` reads what was discovered and skips what has no text;
  * `eventsOfTree` says what was left out and what was skipped.
-/
import SiteAudit.Event
import SiteAudit.Exclude.Rules
import SiteAudit.Files.Listing
import SiteAudit.Source.Basic
import SiteAudit.Text.Lower

namespace SiteAudit

namespace Source

/-- The suffixes of files that declare routes. -/
def pageSuffixes : List Text :=
  [['.', 'r', 'a', 'z', 'o', 'r']]

/-- The suffixes of files in which links are looked for. -/
def linkSuffixes : List Text :=
  [['.', 'r', 'a', 'z', 'o', 'r'], ['.', 'c', 's'], ['.', 'c', 's', 'h', 't', 'm', 'l'],
    ['.', 'h', 't', 'm', 'l']]

/-- The suffix of the path, in small letters, is one of those accepted. -/
def hasSuffix (suffixes : List Text) (path : Files.Path) : Bool :=
  suffixes.contains (Text.lower path.suffix)

/-- The paths below a root that have an accepted suffix. -/
def accepted (tree : Files.Tree) (root : Files.Path) (suffixes : List Text) : List Files.Path :=
  (tree.pathsBelow root).filter (hasSuffix suffixes)

/-- The files below a root that have an accepted suffix. -/
def candidates (tree : Files.Tree) (root : Files.Path) (suffixes : List Text) : List Files.Path :=
  (accepted tree root suffixes).filter tree.isFile

/-- The rules exclude a path below a root. -/
def isExcluded (rules : List Exclude.Rule) (root path : Files.Path) : Bool :=
  Exclude.excludes rules (path.relativeTo root).text

/-- The files that take part. -/
def selected (tree : Files.Tree) (root : Files.Path) (suffixes : List Text)
    (rules : List Exclude.Rule) : List Files.Path :=
  (candidates tree root suffixes).filter fun path => !isExcluded rules root path

/-- Why discovery fails: the root cannot be listed, or an accepted path cannot be
    looked at. -/
def discoveryFault? [Platform] (errand : Errand) (tree : Files.Tree) (root : Files.Path)
    (suffixes : List Text) : Option Files.Fault :=
  (tree.listingFault? errand none root).or ((accepted tree root suffixes).findSome? tree.lookFault?)

/-- The files that take part, unless discovery fails. -/
def discover [Platform] (errand : Errand) (tree : Files.Tree) (root : Files.Path)
    (suffixes : List Text) (rules : List Exclude.Rule) : Except Files.Fault (List Files.Path) :=
  match discoveryFault? errand tree root suffixes with
  | some fault => .error fault
  | none => .ok (selected tree root suffixes rules)

/-- The source at a path below a root, if it has a text. -/
def ofPath? (tree : Files.Tree) (root path : Files.Path) : Option Source :=
  (readText tree path).toOption.map fun text => ⟨(path.relativeTo root).text, text⟩

/-- The sources of files. -/
def ofPaths (tree : Files.Tree) (root : Files.Path) (paths : List Files.Path) : List Source :=
  paths.filterMap (ofPath? tree root)

/-- The sources of a tree, unless discovery fails. -/
def ofTree [Platform] (errand : Errand) (tree : Files.Tree) (root : Files.Path)
    (suffixes : List Text) (rules : List Exclude.Rule) : Except Files.Fault (List Source) :=
  (discover errand tree root suffixes rules).map (ofPaths tree root)

/-! ## Events -/

/-- The event of a path that has no text. -/
def skipEvent? (tree : Files.Tree) (path : Files.Path) : Option Event :=
  match readText tree path with
  | .ok _ => none
  | .error reason => some (.fileSkipped path reason.message)

/-- The files that the rules leave out, up to the first path that cannot be
    looked at. -/
def leftOut (tree : Files.Tree) (root : Files.Path) (suffixes : List Text)
    (rules : List Exclude.Rule) : List Files.Path :=
  ((accepted tree root suffixes).takeWhile fun path => (tree.lookFault? path).isNone).filter
    fun path => tree.isFile path && isExcluded rules root path

/-- What happens when the files are selected. -/
def exclusionEvents [Platform] (errand : Errand) (tree : Files.Tree) (root : Files.Path)
    (suffixes : List Text) (rules : List Exclude.Rule) : List Event :=
  match tree.listingFault? errand none root with
  | some _ => []
  | none => (leftOut tree root suffixes rules).map .fileExcluded

/-- What happens when the sources are selected and read. -/
def eventsOfTree [Platform] (errand : Errand) (tree : Files.Tree) (root : Files.Path)
    (suffixes : List Text) (rules : List Exclude.Rule) : List Event :=
  exclusionEvents errand tree root suffixes rules ++
    match discover errand tree root suffixes rules with
    | .error _ => []
    | .ok paths => paths.filterMap (skipEvent? tree)

end Source

end SiteAudit
