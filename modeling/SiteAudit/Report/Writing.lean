/-
  Writing reports.

  A document is a report with the path it goes to.  Documents are written in
  order, each with the directories that its path lacks; the first failure ends
  the writing, and what was written before it stays.
-/
import SiteAudit.Files.Change

namespace SiteAudit.Report

/-- A report to be written. -/
structure Document where
  /-- What the report is called in messages. -/
  title : Text
  path : Files.Path
  content : Text
  deriving DecidableEq

/-- The wording for a report that cannot be written. -/
def failureMessage (path : Files.Path) : Text :=
  "Failed to write report file: ".toList ++ path.text

/-- Write a text to a path, after making the directories above it. -/
def writeText [Platform] (tree : Files.Tree) (path : Files.Path) (content : Text) :
    Files.Tree × Except Files.Fault Unit :=
  match tree.makeDirectories path.parent with
  | (made, .error fault) => (made, .error fault)
  | (made, .ok ()) =>
    match made.write path (Text.Utf8.encode content) with
    | .ok written => (written, .ok ())
    | .error fault => (made, .error fault)

/-- A report that could not be written, and why. -/
structure Failure where
  path : Files.Path
  fault : Files.Fault
  deriving DecidableEq

/-- Write documents in order. -/
def writeAll [Platform] (tree : Files.Tree) : List Document → Files.Tree × Except Failure Unit
  | [] => (tree, .ok ())
  | document :: documents =>
    match writeText tree document.path document.content with
    | (written, .ok ()) => writeAll written documents
    | (written, .error fault) => (written, .error ⟨document.path, fault⟩)

end SiteAudit.Report
