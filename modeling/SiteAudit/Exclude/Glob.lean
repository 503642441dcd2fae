/-
  Globs: the patterns for one name of a path, and what joins them.

  * `Piece` is an element of a pattern; `Piece.rests` are the ways in which it
    can take the front of a path, the preferred way first;
  * `globPieces` reads a glob: a star is any run without slashes, a question
    mark one character other than a slash, brackets one character of a set, and
    a backslash takes the next character literally;
  * `setRanges` reads the inside of brackets: single characters and ranges.  A
    backslash has no meaning there.
-/
import SiteAudit.Text.Enclosed
import SiteAudit.Text.Taking

namespace SiteAudit.Exclude

/-- Characters from the first to the second. -/
abbrev CharRange := Char × Char

/-- An element of a pattern. -/
inductive Piece where
  /-- This character. -/
  | literal (c : Char)
  /-- One character other than a slash. -/
  | anyOne
  /-- Any number of characters other than slashes. -/
  | anyRun
  /-- One or more characters other than slashes. -/
  | wholeName
  /-- One character of a set, or one outside of it. -/
  | oneOf (negated : Bool) (ranges : List CharRange)
  /-- Any number of directories, with the slash after them. -/
  | directories
  /-- Any number of further directories, with the slash before them. -/
  | furtherDirectories
  deriving DecidableEq

/-- The character lies in one of the ranges. -/
def inRanges (ranges : List CharRange) (c : Char) : Bool :=
  ranges.any fun r => decide (r.1 ≤ c) && decide (c ≤ r.2)

/-- The text after a slash in front, if there is one. -/
def afterSlash? : Text → Option Text
  | '/' :: rest => some rest
  | _ => none

/-- A character that a piece may pass over on its way through directories. -/
def isPassable (c : Char) : Bool :=
  c != '\n'

/-- What may remain of a path after a piece, the preferred way first. -/
def Piece.rests : Piece → Text → List Text
  | literal c, d :: rest => if c = d then [rest] else []
  | anyOne, d :: rest => if d = '/' then [] else [rest]
  | oneOf negated ranges, d :: rest => if inRanges ranges d != negated then [rest] else []
  | literal _, [] => []
  | anyOne, [] => []
  | oneOf _ _, [] => []
  | anyRun, s => Text.restsOfAny (· != '/') s
  | wholeName, s => Text.restsOfSome (· != '/') s
  | directories, s => (Text.restsOfSome isPassable s).filterMap afterSlash? ++ [s]
  | furtherDirectories, s =>
    match afterSlash? s with
    | some rest => Text.restsOfSome isPassable rest ++ [s]
    | none => [s]

/-- The range of a piece, if it is a set, runs upwards. -/
def Piece.isOrdered : Piece → Bool
  | oneOf _ ranges => ranges.all fun r => decide (r.1 ≤ r.2)
  | _ => true

/-! ## Reading a glob -/

/-- The ranges of a set.  A minus sign between two characters makes a range, at
    the end it is a character. -/
def setRanges : Text → List CharRange
  | [] => []
  | c :: '-' :: d :: rest => (c, d) :: setRanges rest
  | c :: rest => (c, c) :: setRanges rest

/-- The inside of brackets, of which the opening one has been read, and what
    follows the closing one.  A closing bracket in first place is a character. -/
def bracketInside? : Text → Option (Text × Text)
  | ']' :: rest => (Text.upTo? ']' rest).map fun (inside, after) => (']' :: inside, after)
  | s => Text.upTo? ']' s

/-- A set, of which the opening bracket has been read, and what follows it. -/
def set? : Text → Option (Piece × Text)
  | '!' :: rest => (bracketInside? rest).map fun (inside, after) => (.oneOf true (setRanges inside), after)
  | '^' :: rest => (bracketInside? rest).map fun (inside, after) => (.oneOf true (setRanges inside), after)
  | s => (bracketInside? s).map fun (inside, after) => (.oneOf false (setRanges inside), after)

/-- Why a glob has no pieces. -/
inductive GlobFault where
  /-- A bracket is not closed. -/
  | openBracket
  /-- A backslash has nothing to take literally. -/
  | lastBackslash
  deriving DecidableEq

/-- The pieces of a glob from a place on; the next `skip` characters belong to
    the previous piece. -/
def globPiecesFrom : (skip : Nat) → Text → Except GlobFault (List Piece)
  | _, [] => .ok []
  | skip + 1, _ :: cs => globPiecesFrom skip cs
  | 0, c :: cs =>
    if c = '*' then (globPiecesFrom 0 cs).map (.anyRun :: ·)
    else if c = '?' then (globPiecesFrom 0 cs).map (.anyOne :: ·)
    else if c = '\\' then
      match cs with
      | d :: _ => (globPiecesFrom 1 cs).map (.literal d :: ·)
      | [] => .error .lastBackslash
    else if c = '[' then
      match set? cs with
      | some (piece, rest) => (globPiecesFrom (cs.length - rest.length) cs).map (piece :: ·)
      | none => .error .openBracket
    else (globPiecesFrom 0 cs).map (.literal c :: ·)

/-- The pieces of a glob. -/
def globPieces (glob : Text) : Except GlobFault (List Piece) :=
  globPiecesFrom 0 glob

end SiteAudit.Exclude
