/-
  Rule files: the `.gitignore` files below a root.

  Their lines are rebased to the root and follow the lines given explicitly, in
  the order of the files' paths.
-/
import SiteAudit.Exclude.Rebase
import SiteAudit.Source.Discovery

namespace SiteAudit.Exclude

/-- The name of a rule file. -/
def ruleFileName : Text :=
  ['.', 'g', 'i', 't', 'i', 'g', 'n', 'o', 'r', 'e']

/-- The rule files below a root: every entry of that name that leads somewhere,
    a directory included. -/
def ruleFiles (tree : Files.Tree) (root : Files.Path) : List Files.Path :=
  (tree.pathsBelow root).filter fun path =>
    path.name == ruleFileName && (tree.entry? path).isSome

/-- The path of a directory as rule lines have it: empty for the root. -/
def baseText (directory root : Files.Path) : Text :=
  let text := (directory.relativeTo root).text
  if text = ['.'] then [] else text

/-- The lines of one rule file, rebased to the root. -/
def linesOfFile (tree : Files.Tree) (root path : Files.Path) :
    Except Source.Unreadable (List Text) :=
  match tree.read path with
  | .error fault => .error (.unreachable fault)
  | .ok bytes =>
    match Text.Utf8.decode bytes with
    | .error fault => .error (.undecodable fault)
    | .ok text =>
      .ok ((Text.ruleLines (Text.withLineFeeds text)).map (rebase (baseText path.parent root)))

/-- The lines of rule files in order; the first file that cannot be read
    counts. -/
def linesOfFiles (tree : Files.Tree) (root : Files.Path) :
    List Files.Path → Except Source.Unreadable (List Text)
  | [] => .ok []
  | path :: paths => do
    let first ← linesOfFile tree root path
    let others ← linesOfFiles tree root paths
    .ok (first ++ others)

/-- Why there are no rules. -/
inductive RulesFault where
  /-- The root cannot be searched for rule files. -/
  | unlisted (fault : Files.Fault)
  /-- A rule file cannot be read. -/
  | unreadable (reason : Source.Unreadable)
  /-- A line cannot be a rule. -/
  | badRule (fault : RuleFault)
  deriving DecidableEq

/-- The lines of the rules: those given, then, if asked for, those of the rule
    files below the root.  Rule files are looked for in every directory. -/
def linesOfTree [Platform] (tree : Files.Tree) (root : Files.Path) (given : List Text)
    (withRuleFiles : Bool) : Except RulesFault (List Text) :=
  if withRuleFiles then
    match tree.listingFault? .rules (some ruleFileName) root with
    | some fault => .error (.unlisted fault)
    | none =>
      ((linesOfFiles tree root (ruleFiles tree root)).mapError .unreadable).map (given ++ ·)
  else .ok given

/-- The rules for the files of a tree. -/
def rulesOfTree [Platform] (tree : Files.Tree) (root : Files.Path) (given : List Text)
    (withRuleFiles : Bool) : Except RulesFault (List Rule) := do
  let lines ← linesOfTree tree root given withRuleFiles
  (rulesOfLines lines).mapError .badRule

end SiteAudit.Exclude
