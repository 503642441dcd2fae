/-
  Following a path through a tree.

  * names are taken one after the other; two dots lead to the parent, a link is
    replaced by its target, and each name needs a directory to stand in;
  * a walk ends at an entry, or at the vacant place of a last name in an
    existing directory; `Purpose` says what the walk is for, on which it depends
    what becomes of a link that is the last name;
  * a walk may replace forty links, so it always ends;
  * names and paths have a greatest length, in bytes.  A longer name counts as a
    fault where it is met, a longer path at once.
-/
import SiteAudit.Files.Tree

namespace SiteAudit.Files

/-- Where a walk ends. -/
inductive Reach where
  /-- At an entry. -/
  | entry (location : Location) (node : Node)
  /-- At a place where an entry could be made. -/
  | vacant (location : Location)
  deriving DecidableEq

/-- What a walk is for. -/
inductive Purpose where
  /-- To look at what a path leads to. -/
  | look
  /-- To find the entry itself; a link that is the last name is not replaced. -/
  | name
  /-- To fill a file; a target with a slash at its end cannot be one. -/
  | fill
  deriving DecidableEq

/-- The greatest number of bytes of a name. -/
def maxNameBytes : Nat := 255

/-- The greatest number of bytes of a path. -/
def maxPathBytes : Nat := 4095

/-- The text has more bytes than so many. -/
def exceeds (limit : Nat) (s : Text) : Bool :=
  decide (limit < (Text.Utf8.encode s).length)

namespace Tree

/-- Take names from a location on; `onLink` goes on from where a link's target
    starts.  Empty names come from slashes at the ends of targets. -/
def walkWith (tree : Tree) (purpose : Purpose)
    (onLink : Location → List Text → Except Cause Reach) :
    Location → List Text → Except Cause Reach
  | location, [] =>
    match tree.node? location with
    | some node => .ok (.entry location node)
    | none => .error .notFound
  | location, name :: more =>
    match tree.node? location with
    | some .directory =>
      if purpose = .fill ∧ more ≠ [] ∧ more.all (· = []) then .error .isDirectory
      else if name = [] ∨ name = ['.'] then walkWith tree purpose onLink location more
      else if name = ['.', '.'] then walkWith tree purpose onLink location.dropLast more
      else if exceeds maxNameBytes name then .error .nameTooLong
      else
        let next := location ++ [name]
        match tree.node? next with
        | none => if more = [] then .ok (.vacant next) else .error .notFound
        | some (.link target) =>
          if more = [] ∧ purpose = .name then .ok (.entry next (.link target))
          else onLink (if target.head? = some '/' then [] else location)
            (Text.splitOn '/' target ++ more)
        | some _ => walkWith tree purpose onLink next more
    | some _ => .error .notDirectory
    | none => .error .notFound

/-- Take names from a location on, replacing at most `links` links. -/
def walk (tree : Tree) (purpose : Purpose) : (links : Nat) → Location → List Text →
    Except Cause Reach
  | 0 => walkWith tree purpose fun _ _ => .error .tooManyLinks
  | links + 1 => walkWith tree purpose (walk tree purpose links)

/-- The greatest number of links that one walk replaces. -/
def maxLinks : Nat := 40

/-- Where a path starts. -/
def startOf (tree : Tree) (path : Path) : Location :=
  if path.anchor = .relative then tree.here else []

/-- Where a path leads that is written in the given way. -/
def reachAs (tree : Tree) (written : Text) (path : Path) (purpose : Purpose) :
    Except Fault Reach :=
  if written.contains '\x00' then .error .nullCharacter
  else if exceeds maxPathBytes written then .error (.refused .nameTooLong written)
  else (tree.walk purpose maxLinks (tree.startOf path) path.parts).mapError (.refused · written)

/-- Where a path leads. -/
def reach (tree : Tree) (path : Path) (purpose : Purpose) : Except Fault Reach :=
  tree.reachAs path.text path purpose

/-- The location of the entry that a path leads to, if there is one. -/
def locate? (tree : Tree) (path : Path) : Option Location :=
  match tree.reach path .look with
  | .ok (.entry location _) => some location
  | _ => none

/-- The entry that a path leads to, if there is one. -/
def entry? (tree : Tree) (path : Path) : Option Node :=
  match tree.reach path .look with
  | .ok (.entry _ node) => some node
  | _ => none

/-- The fault of looking at a path that is written in the given way.  That the
    path leads nowhere is no fault, that a name or the path is too long is one. -/
def lookFaultAs? (tree : Tree) (written : Text) (path : Path) : Option Fault :=
  match tree.reachAs written path .look with
  | .error (.refused .nameTooLong written) => some (.refused .nameTooLong written)
  | _ => none

/-- The fault of looking at a path. -/
def lookFault? (tree : Tree) (path : Path) : Option Fault :=
  tree.lookFaultAs? path.text path

/-- The path leads to a directory. -/
def isDirectory (tree : Tree) (path : Path) : Bool :=
  tree.entry? path == some .directory

/-- The path leads to a file. -/
def isFile (tree : Tree) (path : Path) : Bool :=
  match tree.entry? path with
  | some (.file _) => true
  | _ => false

/-- The content of the file that a path leads to. -/
def read (tree : Tree) (path : Path) : Except Fault Text.Utf8.Bytes :=
  match tree.reach path .look with
  | .ok (.entry _ (.file bytes)) => .ok bytes
  | .ok (.entry _ _) => .error (.refused .isDirectory path.text)
  | .ok (.vacant _) => .error (.refused .notFound path.text)
  | .error fault => .error fault

end Tree

end SiteAudit.Files
