/-
  Setting a tree up: making links and removing entries.

  The program does neither.  These operations serve whoever prepares a tree for a
  run, or changes it between two steps.

  Making a link changes nothing if it fails; `remove` empties a directory before it
  takes it away, and leaves it empty if it cannot go.
-/
import SiteAudit.Files.Change

namespace SiteAudit.Files.Tree

/-- Make a link in an existing directory.  Its target need not lead anywhere,
    but it cannot be empty or longer than a path. -/
def makeLink (tree : Tree) (path : Path) (target : Text) : Except Fault Tree :=
  if (target ++ path.text).contains '\x00' then .error .nullCharacter
  else if target = [] then .error (.refused .notFound path.text)
  else if exceeds maxPathBytes target then .error (.refused .nameTooLong path.text)
  else (tree.vacancy path).map fun location => tree.put location (.link target)

/-- The tree without a location and all below it. -/
def cut (tree : Tree) (location : Location) : Tree :=
  { tree with nodes := tree.nodes.filter fun other _ => !location.isPrefixOf other }

/-- The tree without all that is below a location. -/
def clear (tree : Tree) (location : Location) : Tree :=
  { tree with
    nodes := tree.nodes.filter fun other _ => other == location || !location.isPrefixOf other }

/-- Why the directory at the end of a path cannot go, if it cannot: the path
    names no place for it, or leads to it out of a directory that is gone by
    then. -/
def staying? (path : Path) : Option Cause :=
  if path.parts = [] then some .invalidPlace
  else if path.parts.getLast? = some ['.', '.'] then some .notFound
  else none

/-- Remove an entry; a directory goes with all below it, a link goes itself.  A
    directory that cannot go is emptied. -/
def remove (tree : Tree) (path : Path) : Tree × Except Fault Unit :=
  match tree.lookFault? path with
  | some fault => (tree, .error fault)
  | none =>
    match tree.reach path .name with
    | .ok (.entry location .directory) =>
      match staying? path with
      | some cause => (tree.clear location, .error (.refused cause path.text))
      | none => (tree.cut location, .ok ())
    | .ok (.entry location _) => (tree.cut location, .ok ())
    | .ok (.vacant _) => (tree, .error (.refused .notFound path.text))
    | .error fault => (tree, .error fault)

end SiteAudit.Files.Tree
