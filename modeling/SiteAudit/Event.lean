/-
  Events: what an audit reports about its own course.

  Every event has a level and a message; `visibleFrom` keeps those of a level
  and above.
-/
import SiteAudit.Files.Path

namespace SiteAudit

/-- How much an event matters. -/
inductive Level where
  | debug
  | info
  | warning
  | error
  deriving DecidableEq

/-- The name of a level. -/
def Level.label : Level → Text
  | debug => "DEBUG".toList
  | info => "INFO".toList
  | warning => "WARNING".toList
  | error => "ERROR".toList

/-- The place of a level in their order. -/
def Level.rank : Level → Nat
  | debug => 0
  | info => 1
  | warning => 2
  | error => 3

/-- One event. -/
inductive Event where
  /-- The rules exclude a file. -/
  | fileExcluded (path : Files.Path)
  /-- A file cannot be read. -/
  | fileSkipped (path : Files.Path) (reason : Text)
  /-- The catalogue of live templates is complete. -/
  | catalogueMade (templates : Nat)
  /-- The routes of a site are known. -/
  | routesFound (root : Files.Path) (routes templates roles : Nat)
  /-- The links of a site are known. -/
  | linksFound (root : Files.Path) (links : Nat)
  /-- A report cannot be written. -/
  | reportFailed (path : Files.Path) (reason : Text)
  /-- The command line is not understood, or asks for help. -/
  | argumentsRejected (arguments : List Text)
  /-- The root is not a directory. -/
  | rootMissing (root : Files.Path)
  /-- A rule file cannot be read. -/
  | rulesUnreadable (reason : Text)
  /-- The audit ends without its reports. -/
  | auditFailed (reason : Text)
  /-- The audit ends for a reason of no other kind. -/
  | auditBroken (root : Files.Path)
  deriving DecidableEq

namespace Event

/-- The level of an event. -/
def level : Event → Level
  | fileExcluded _ | fileSkipped _ _ | catalogueMade _ => .debug
  | routesFound _ _ _ _ | linksFound _ _ => .info
  | reportFailed _ _ | argumentsRejected _ | rootMissing _ | rulesUnreadable _ | auditFailed _ =>
    .warning
  | auditBroken _ => .error

/-- The message of an event. -/
def message : Event → Text
  | fileExcluded path => "Excluded file (file_path=".toList ++ path.text ++ [')']
  | fileSkipped path reason =>
    "Skipping unreadable file (file_path=".toList ++ path.text ++ " error=".toList ++ reason ++ [')']
  | catalogueMade templates =>
    "Compiled route patterns (count=".toList ++ Text.ofNat templates ++ [')']
  | routesFound root routes templates roles =>
    "Route pass completed (path=".toList ++ root.text ++ " routes=".toList ++ Text.ofNat routes ++
      " patterns=".toList ++ Text.ofNat templates ++ " roles=".toList ++ Text.ofNat roles ++ [')']
  | linksFound root links =>
    "Link pass completed (path=".toList ++ root.text ++ " links=".toList ++ Text.ofNat links ++ [')']
  | reportFailed path reason =>
    "Failed to write report file (output_path=".toList ++ path.text ++ " error=".toList ++
      reason ++ [')']
  | argumentsRejected arguments =>
    "Argument parsing failed (argv=".toList ++ Text.quotedList arguments ++ [')']
  | rootMissing root => "Root folder not found (path=".toList ++ root.text ++ [')']
  | rulesUnreadable reason =>
    "Failed to read .gitignore files (error=".toList ++ reason ++ [')']
  | auditFailed reason => "Audit failed (error=".toList ++ reason ++ [')']
  | auditBroken root => "Unexpected audit failure (path=".toList ++ root.text ++ [')']

/-- The events of a level and above. -/
def visibleFrom (level : Level) (events : List Event) : List Event :=
  events.filter fun event => decide (level.rank ≤ event.level.rank)

end Event

end SiteAudit
