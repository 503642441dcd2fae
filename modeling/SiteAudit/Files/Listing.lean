/-
  Listing what is below a root.

  * `pathsBelow` are the paths of all entries below a root, in the order of
    their names; directories that are reached by a link are not entered;
  * `listingFault?` says why the listing fails.  It opens every directory, unless
    that is nested too deep, and looks at every link if the platform does.
-/
import SiteAudit.Files.Walk
import SiteAudit.Platform

namespace SiteAudit.Files

/-- The path relative to a root; a path outside of the root stays. -/
def Path.relativeTo (path root : Path) : Path :=
  (path.relativeTo? root).getD path

/-- An entry as the listing of its directory writes it: after the directory and a
    slash, even if the directory is a dot. -/
def Path.listedText (path : Path) : Text :=
  let directory := path.parent.text
  (if Text.endsWith ['/'] directory then directory else directory ++ ['/']) ++ path.name

namespace Tree

/-- The entries below a location, by their names from there, in ascending
    order. -/
def namesBelow (tree : Tree) (location : Location) : List (List Text) :=
  (tree.nodes.keys.filter fun other =>
    location.isPrefixOf other && location.length < other.length).map (·.drop location.length)

/-- The paths of all entries below a root, if the root is a directory. -/
def pathsBelow (tree : Tree) (root : Path) : List Path :=
  match tree.reach root .look with
  | .ok (.entry location .directory) => (tree.namesBelow location).map root.below
  | _ => []

/-- The fault of opening a directory, in which a name may be looked for first. -/
def openingFault? (tree : Tree) (sought : Option Text) (directory : Path) : Option Fault :=
  (sought.bind fun name => tree.lookFault? (directory.below [name])).or (tree.lookFault? directory)

/-- The fault of going down to a directory that is so many directories below the
    root. -/
def depthFault? [Platform] (errand : Errand) (depth : Nat) : Option Fault :=
  if Platform.maxDepth errand < depth then some (.tooDeep (Platform.depthMessage errand)) else none

@[simp] theorem depthFault?_eq_none_iff [Platform] {errand : Errand} {depth : Nat} :
    depthFault? errand depth = none ↔ depth ≤ Platform.maxDepth errand := by
  rw [depthFault?]
  split <;> simp <;> omega

/-- The fault of coming upon an entry. -/
def meetingFault? [Platform] (tree : Tree) (errand : Errand) (sought : Option Text) (root : Path)
    (names : List Text) : Node → Option Fault
  | .file _ => none
  | .directory => (tree.openingFault? sought (root.below names)).or (depthFault? errand names.length)
  | .link _ =>
    if Platform.looksAtLinks then tree.lookFaultAs? (root.below names).listedText (root.below names) else none

/-- The first fault of listing a root and all directories below it, in each of
    which a name may be looked for.  A root that is no directory is not listed. -/
def listingFault? [Platform] (tree : Tree) (errand : Errand) (sought : Option Text) (root : Path) :
    Option Fault :=
  match tree.reach root .look with
  | .ok (.entry location .directory) =>
    (tree.openingFault? sought root).or <|
      (Platform.arrange (tree.namesBelow location)).findSome? fun names =>
        (tree.node? (location ++ names)).bind (tree.meetingFault? errand sought root names)
  | _ => tree.lookFault? root

end Tree

end SiteAudit.Files
