/-
  Changing a tree: making directories and writing files.

  An operation that fails changes nothing, except for `makeDirectories`, which
  keeps the directories that it made before it failed.  It first goes up to a
  directory that stands, and makes nothing if that is too far away.
-/
import SiteAudit.Files.Walk
import SiteAudit.Platform

namespace SiteAudit.Files.Tree

/-- The vacant place of a new entry with the given path. -/
def vacancy (tree : Tree) (path : Path) : Except Fault Location :=
  match tree.reach path .name with
  | .ok (.vacant location) => .ok location
  | .ok (.entry _ _) => .error (.refused .alreadyThere path.text)
  | .error fault => .error fault

/-- Make a directory in an existing one. -/
def makeDirectory (tree : Tree) (path : Path) : Except Fault Tree :=
  (tree.vacancy path).map fun location => tree.put location .directory

/-- The fault may come from a missing directory above the path. -/
def lacksParent : Fault → Bool
  | .refused .notFound _ => true
  | _ => false

/-- What becomes of a failed attempt to make a directory: a success after all if
    the directory is there, and another fault if the path cannot be looked at. -/
def settle (tree : Tree) (path : Path) (fault : Fault) : Tree × Except Fault Unit :=
  match tree.lookFault? path with
  | some other => (tree, .error other)
  | none => if tree.isDirectory path then (tree, .ok ()) else (tree, .error fault)

/-- Make a directory and those above it that are missing; `above` are the parts
    of its path, the last one first. -/
def makeDirectoriesFrom (anchor : Anchor) : (above : List Text) → Tree → Tree × Except Fault Unit
  | [], tree =>
    match tree.makeDirectory ⟨anchor, []⟩ with
    | .ok made => (made, .ok ())
    | .error fault =>
      if lacksParent fault then (tree, .error fault) else tree.settle ⟨anchor, []⟩ fault
  | part :: above, tree =>
    let path : Path := ⟨anchor, (part :: above).reverse⟩
    match tree.makeDirectory path with
    | .ok made => (made, .ok ())
    | .error fault =>
      if lacksParent fault then
        match makeDirectoriesFrom anchor above tree with
        | (made, .error fault) => (made, .error fault)
        | (made, .ok ()) =>
          match made.makeDirectory path with
          | .ok made => (made, .ok ())
          | .error fault =>
            if lacksParent fault then (made, .error fault) else made.settle path fault
      else tree.settle path fault

/-- The number of times that a missing directory sends the making of one to the
    directory above; `above` are the parts of its path, the last one first. -/
def missingAbove (tree : Tree) (anchor : Anchor) : (above : List Text) → Nat
  | [] => 0
  | part :: above =>
    match tree.makeDirectory ⟨anchor, (part :: above).reverse⟩ with
    | .ok _ => 0
    | .error fault => if lacksParent fault then missingAbove tree anchor above + 1 else 0

/-- Make a directory and those above it that are missing.  An existing directory
    is left as it is. -/
def makeDirectories [Platform] (tree : Tree) (path : Path) : Tree × Except Fault Unit :=
  if Platform.maxDepth .reports < tree.missingAbove path.anchor path.parts.reverse then
    (tree, .error (.tooDeep (Platform.depthMessage .reports)))
  else makeDirectoriesFrom path.anchor path.parts.reverse tree

/-- Write a file in an existing directory, replacing its content. -/
def write (tree : Tree) (path : Path) (bytes : Text.Utf8.Bytes) : Except Fault Tree :=
  match tree.reach path .fill with
  | .ok (.entry location (.file _)) => .ok (tree.put location (.file bytes))
  | .ok (.entry _ _) => .error (.refused .isDirectory path.text)
  | .ok (.vacant location) => .ok (tree.put location (.file bytes))
  | .error fault => .error fault

end SiteAudit.Files.Tree
