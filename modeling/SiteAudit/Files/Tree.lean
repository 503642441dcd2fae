/-
  File trees.

  A tree maps locations to files, directories and links, and knows the location
  of the directory in which the program works.  A location is a list of names
  from the top; no name is a dot, two dots or empty.  The top itself is always a
  directory.

  `Fault` says why an operation on a path fails.
-/
import Std.Data.TreeMap
import SiteAudit.Files.Path
import SiteAudit.Text.Utf8

namespace SiteAudit.Files

/-- The names from the top to an entry. -/
abbrev Location := List Text

/-- An entry of a tree. -/
inductive Node where
  | file (bytes : Text.Utf8.Bytes)
  | directory
  | link (target : Text)
  deriving DecidableEq

/-- A file tree and the working directory in it. -/
structure Tree where
  /-- The entries below the top. -/
  nodes : Std.TreeMap Location Node
  /-- The working directory. -/
  here : Location

/-- Why a tree refuses an operation. -/
inductive Cause where
  | notFound
  | alreadyThere
  | notDirectory
  | isDirectory
  | invalidPlace
  | nameTooLong
  | tooManyLinks
  deriving DecidableEq

/-- A failed operation. -/
inductive Fault where
  /-- The tree refuses it; the path is kept as it was written. -/
  | refused (cause : Cause) (written : Text)
  /-- The path holds a null character, with which no tree is asked. -/
  | nullCharacter
  /-- Directories are nested too deep to be gone through; the program says so in its
      own words. -/
  | tooDeep (words : Text)
  deriving DecidableEq

/-- The number of a cause. -/
def Cause.number : Cause → Nat
  | notFound => 2
  | alreadyThere => 17
  | notDirectory => 20
  | isDirectory => 21
  | invalidPlace => 22
  | nameTooLong => 36
  | tooManyLinks => 40

/-- The words for a cause. -/
def Cause.words : Cause → Text
  | notFound => "No such file or directory".toList
  | alreadyThere => "File exists".toList
  | notDirectory => "Not a directory".toList
  | isDirectory => "Is a directory".toList
  | invalidPlace => "Invalid argument".toList
  | nameTooLong => "File name too long".toList
  | tooManyLinks => "Too many levels of symbolic links".toList

/-- The wording of a fault. -/
def Fault.message : Fault → Text
  | refused cause written =>
    "[Errno ".toList ++ Text.ofNat cause.number ++ "] ".toList ++ cause.words ++ ": ".toList ++
      Text.quoted written
  | nullCharacter => "embedded null byte".toList
  | tooDeep words => words

namespace Tree

/-- The tree that has only its working directory. -/
def emptyAt (here : Location) : Tree where
  nodes := (List.range here.length).foldl (fun nodes n => nodes.insert (here.take (n + 1)) .directory) ∅
  here := here

/-- The entry at a location. -/
def node? (tree : Tree) (location : Location) : Option Node :=
  if location = [] then some .directory else tree.nodes[location]?

/-- The tree with an entry put at a location. -/
def put (tree : Tree) (location : Location) (node : Node) : Tree :=
  { tree with nodes := tree.nodes.insert location node }

end Tree

end SiteAudit.Files
