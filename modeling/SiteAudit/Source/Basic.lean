/-
  Sources: the files of a site as texts.

  * `Source` is a file, named relative to the root, with its text;
  * `readText` reads a file of a tree as text: its bytes as UTF-8 without a
    byte-order mark, with a line feed for every line end;
  * `Unreadable` says why a file has no text.
-/
import SiteAudit.Files.Walk
import SiteAudit.Text.Lines

namespace SiteAudit

/-- A file and its text. -/
structure Source where
  /-- The file, relative to the root. -/
  file : Text
  text : Text
  deriving DecidableEq

namespace Source

/-- Why a file has no text. -/
inductive Unreadable where
  /-- Its content is out of reach. -/
  | unreachable (fault : Files.Fault)
  /-- Its content is no text. -/
  | undecodable (fault : Text.Utf8.Fault)
  deriving DecidableEq

/-- The wording of the reason. -/
def Unreadable.message : Unreadable → Text
  | unreachable fault => fault.message
  | undecodable fault => fault.message

/-- The text of a file's content. -/
def textOfBytes (bytes : Text.Utf8.Bytes) : Except Text.Utf8.Fault Text :=
  (Text.Utf8.decodeMarked bytes).map Text.withLineFeeds

/-- The text of the file that a path leads to. -/
def readText (tree : Files.Tree) (path : Files.Path) : Except Unreadable Text :=
  match tree.read path with
  | .error fault => .error (.unreachable fault)
  | .ok bytes => (textOfBytes bytes).mapError .undecodable

end Source

end SiteAudit
