/-
  Paths, as a user writes them and as messages show them.

  * a path is anchored (relative, absolute, or absolute with two slashes) and
    has parts; empty parts and single dots are dropped when it is read, double
    dots stay;
  * `stem` and `suffix` cut the last part at its last dot, unless that dot is
    its first or its last character;
  * `withName?` replaces the last part, and fails on a path that has none;
  * `relativeTo?` takes a path off the front.
-/
import SiteAudit.Text.Quoted

namespace SiteAudit.Files

/-- How a path begins. -/
inductive Anchor where
  | relative
  | absolute
  | doubled
  deriving DecidableEq

/-- The slashes that an anchor is written with. -/
def Anchor.text : Anchor → Text
  | relative => []
  | absolute => ['/']
  | doubled => ['/', '/']

/-- A path; no part is empty, a single dot, or holds a slash. -/
structure Path where
  anchor : Anchor
  parts : List Text
  deriving DecidableEq

namespace Path

/-- A part that names something other than the directory itself. -/
def isPart (part : Text) : Bool :=
  part != [] && part != ['.']

/-- The parts of a text between slashes. -/
def partsOf (s : Text) : List Text :=
  (Text.splitOn '/' s).filter isPart

/-- The anchor of a text: exactly two slashes differ from one or three. -/
def anchorOf : Text → Anchor
  | '/' :: '/' :: '/' :: _ => .absolute
  | '/' :: '/' :: _ => .doubled
  | '/' :: _ => .absolute
  | _ => .relative

/-- The path that a text denotes. -/
def ofText (s : Text) : Path :=
  ⟨anchorOf s, partsOf s⟩

/-- The path as written in messages; a path without anchor and parts is a dot. -/
def text (path : Path) : Text :=
  if path.anchor = .relative ∧ path.parts = [] then ['.']
  else path.anchor.text ++ Text.joinWith ['/'] path.parts

/-- The path of something below. -/
def below (path : Path) (parts : List Text) : Path :=
  ⟨path.anchor, path.parts ++ parts⟩

/-- The path without its last part; a path without parts stays. -/
def parent (path : Path) : Path :=
  ⟨path.anchor, path.parts.dropLast⟩

/-- The last part, empty if there is none. -/
def name (path : Path) : Text :=
  path.parts.getLast?.getD []

/-- A name cut at its last dot, which goes with the second piece.  A dot that is
    the first or the last character does not count. -/
def cutName (name : Text) : Text × Text :=
  let ending := name.reverse.takeWhile (· != '.')
  match name.reverse.drop ending.length with
  | _ :: before@(_ :: _) => if ending = [] then (name, []) else (before.reverse, '.' :: ending.reverse)
  | _ => (name, [])

/-- The name before its suffix. -/
def stem (path : Path) : Text :=
  (cutName path.name).1

/-- The suffix of the name, with its dot. -/
def suffix (path : Path) : Text :=
  (cutName path.name).2

/-- The path with another last part, if it has a last part. -/
def withName? (path : Path) (name : Text) : Option Path :=
  if path.parts = [] then none else some ⟨path.anchor, path.parts.dropLast ++ [name]⟩

/-- What remains of a path after the path in front of it. -/
def relativeTo? (path root : Path) : Option Path :=
  if path.anchor = root.anchor ∧ root.parts.isPrefixOf path.parts then
    some ⟨.relative, path.parts.drop root.parts.length⟩
  else none

end Path

end SiteAudit.Files
