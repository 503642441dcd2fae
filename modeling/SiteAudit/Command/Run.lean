/-
  Running the command on a file tree.

  * `run arguments tree` is the outcome: how the command ends, what it prints,
    what it reports of its course, and the tree it leaves;
  * the command goes through its stages in a fixed order: arguments, root,
    rules, audit, reports, writing, summary.  A stage that fails ends it;
  * all reports are made before the first one is written.
-/
import SiteAudit.Audit.OfTree
import SiteAudit.Command.Summary
import SiteAudit.Command.Usage
import SiteAudit.Exclude.RuleFiles
import SiteAudit.Report.Csv
import SiteAudit.Report.Json
import SiteAudit.Report.Markdown
import SiteAudit.Report.Paths
import SiteAudit.Report.Writing
import SiteAudit.Text.Columns

namespace SiteAudit.Command

/-- The codes with which the command exits. -/
inductive ExitCode where
  | success
  | failure
  | usage
  deriving DecidableEq

/-- The number of a code. -/
def ExitCode.number : ExitCode → Nat
  | success => 0
  | failure => 1
  | usage => 2

/-- Why the command ends without an exit code. -/
inductive Breakdown where
  /-- The working directory is asked for and is gone. -/
  | noWorkingDirectory
  /-- The root cannot be looked at. -/
  | rootUnreachable (fault : Files.Fault)
  /-- Directories are nested too deep to be searched for rule files. -/
  | rulesTooDeep (words : Text)
  /-- A line cannot be a rule. -/
  | badRule (fault : Exclude.RuleFault)
  deriving DecidableEq

/-- The wording of a breakdown. -/
def Breakdown.message : Breakdown → Text
  | noWorkingDirectory =>
    "[Errno ".toList ++ Text.ofNat Files.Cause.notFound.number ++ "] ".toList ++
      Files.Cause.notFound.words
  | rootUnreachable fault => fault.message
  | rulesTooDeep words => words
  | badRule fault => fault.message

/-- How the command ends. -/
inductive Ending where
  /-- With an exit code. -/
  | exit (code : ExitCode)
  /-- Without one. -/
  | broken (breakdown : Breakdown)
  deriving DecidableEq

/-- The outcome of a run. -/
structure Outcome where
  ending : Ending
  /-- What is printed on the two streams of the command. -/
  stdout : Text := []
  stderr : Text := []
  /-- The help text, if it is asked for, and the complaint about arguments. -/
  help : Text := []
  complaint : Text := []
  /-- The level from which events are reported. -/
  level : Level := .info
  /-- The events of that level and above. -/
  events : List Event := []
  /-- The tree after the run. -/
  tree : Files.Tree

/-! ## Reports -/

/-- Why the reports cannot be made. -/
inductive PlanFault where
  /-- The option for the report path was given no value. -/
  | pathless
  /-- The report path has no name. -/
  | nameless (report : Files.Path)
  /-- A label has no form in the Markdown report. -/
  | unknownLabel (fault : Report.Markdown.UnknownLabel)
  /-- The line of a link has too many digits. -/
  | longNumber (fault : Report.LongNumber)
  deriving DecidableEq

/-- The wording of a fault, with its kind. -/
def PlanFault.message : PlanFault → Text
  | pathless => "TypeError('expected str, bytes or os.PathLike object, not list')".toList
  | nameless report => "ValueError(".toList ++ Text.quoted (Report.namelessMessage report) ++ [')']
  | unknownLabel fault => "KeyError(".toList ++ fault.message ++ [')']
  | longNumber fault => "ValueError(".toList ++ Text.quoted fault.message ++ [')']

/-- The Markdown report, if the lines of the links can be written. -/
def markdownOf [Platform] (audit : Audit) : Except PlanFault Text := do
  let markdown ← (Report.Markdown.render audit).mapError .unknownLabel
  (Report.ifWritten audit markdown).mapError .longNumber

/-- The tables beside a report, if they are asked for. -/
def tablesOf [Platform] (options : Options) (audit : Audit) (report : Files.Path) :
    Except PlanFault (List Report.Document) :=
  if options.csv then
    match Report.routesCsvPath? report, Report.linksCsvPath? report with
    | some routes, some links =>
      ((Report.Csv.renderLinks audit).mapError .longNumber).map fun linkTable =>
        [⟨"Routes CSV".toList, routes, Report.Csv.renderRoutes audit⟩,
          ⟨"Links CSV".toList, links, linkTable⟩]
    | _, _ => .error (.nameless report)
  else .ok []

/-- The JSON document, if it is asked for. -/
def jsonOf [Platform] (options : Options) (audit : Audit) :
    Except PlanFault (List Report.Document) :=
  if options.jsonOutput = [] then .ok []
  else
    ((Report.renderJson audit).mapError .longNumber).map fun document =>
      [⟨"JSON export".toList, Files.Path.ofText options.jsonOutput, document⟩]

/-- The reports asked for, in the order of writing. -/
def documents [Platform] (options : Options) (audit : Audit) :
    Except PlanFault (List Report.Document) := do
  let output ← options.output.elim (.error .pathless) .ok
  let report := Files.Path.ofText output
  let markdown ← markdownOf audit
  let tables ← tablesOf options audit report
  let json ← jsonOf options audit
  .ok (⟨"Markdown report".toList, report, markdown⟩ :: tables ++ json)

/-! ## Stages -/

/-- A character that a terminal takes as a command and that is not printed. -/
def isDropped (c : Char) : Bool :=
  let n := c.toNat
  n == 7 || n == 8 || n == 11 || n == 12 || n == 13

/-- The path of what a path leads to, from the top and without links. -/
def resolved (tree : Files.Tree) (path : Files.Path) : Files.Path :=
  match tree.locate? path with
  | some location => ⟨.absolute, location⟩
  | none => path

/-- A text as a terminal shows it, with blanks for tabs in each line. -/
def displayed (s : Text) : Text :=
  Text.joinWith ['\n'] ((Text.splitOn '\n' (s.filter (!isDropped ·))).map Text.expandTabs)

/-- The line that says where a report was written. -/
def writtenLine (tree : Files.Tree) (document : Report.Document) : Text :=
  displayed (document.title ++ " written: ".toList ++ (resolved tree document.path).text) ++ ['\n']

/-- The root that the options ask for. -/
def rootOf (options : Options) (tree : Files.Tree) : Files.Path :=
  if options.path = [] then ⟨.absolute, tree.here⟩ else Files.Path.ofText options.path

/-- The options ask for the working directory, and it is gone. -/
def lacksRoot (options : Options) (tree : Files.Tree) : Bool :=
  decide (options.path = []) && tree.node? tree.here != some .directory

/-- The level that the options ask for. -/
def levelOf (options : Options) : Level :=
  if options.verbose then .debug else .info

/-- The end of a run whose root is not a directory. -/
def rootMissing (tree : Files.Tree) (root : Files.Path) : Outcome :=
  { ending := .exit .usage
    stderr := Audit.rootMissingMessage root ++ ['\n']
    events := [.rootMissing root]
    tree }

/-- The end of a run whose rule files cannot be read. -/
def rulesUnreadable (tree : Files.Tree) (reason : Text) : Outcome :=
  { ending := .exit .usage
    stderr := "Failed to read .gitignore files: ".toList ++ reason ++ ['\n']
    events := [.rulesUnreadable reason]
    tree }

/-- The end of a run that fails in a way of no other kind, described by a
    message. -/
def failed (tree : Files.Tree) (root : Files.Path) (message : Text) (before : List Event) :
    Outcome :=
  { ending := .exit .failure
    stderr := message ++ ['\n']
    events := before ++ [.auditBroken root]
    tree }

/-- A fault with its kind. -/
def describedFault : Files.Fault → Text
  | .refused cause _ =>
    "OSError(".toList ++ Text.ofNat cause.number ++ [',', ' '] ++ Text.quoted cause.words ++ [')']
  | .nullCharacter =>
    "ValueError(".toList ++ Text.quoted Files.Fault.nullCharacter.message ++ [')']
  | .tooDeep words => "RecursionError(".toList ++ Text.quoted words ++ [')']

/-- The end of a run whose reports cannot all be written. -/
def writingFailed (tree : Files.Tree) (root : Files.Path) (failure : Report.Failure)
    (before : List Event) : Outcome :=
  match failure.fault with
  | .nullCharacter => failed tree root (describedFault .nullCharacter) before
  | .tooDeep words => failed tree root (describedFault (.tooDeep words)) before
  | .refused _ _ =>
    let message := Report.failureMessage failure.path
    { ending := .exit .failure
      stderr := message ++ ['\n']
      events := before ++ [.reportFailed failure.path failure.fault.message, .auditFailed message]
      tree }

/-- Write the reports of an audit and print the summary. -/
def deliver [Platform] (options : Options) (tree : Files.Tree) (root : Files.Path) (audit : Audit)
    (before : List Event) : Outcome :=
  match documents options audit with
  | .error fault => failed tree root fault.message before
  | .ok documents =>
    match Report.writeAll tree documents with
    | (left, .error failure) => writingFailed left root failure before
    | (written, .ok ()) =>
      { ending := .exit .success
        stdout := Summary.render audit ++ documents.flatMap (writtenLine written)
        events := before
        tree := written }

/-- Audit a root that is a directory. -/
def auditRoot [Platform] (options : Options) (tree : Files.Tree) (root : Files.Path)
    (rules : List Exclude.Rule) : Outcome :=
  let events := Audit.eventsOfTree tree root rules
  match Audit.ofTree tree root rules with
  | .error (.rootMissing root) => rootMissing tree root
  | .error (.unreachable fault) => failed tree root (describedFault fault) events
  | .ok audit => deliver options tree root audit events

/-- The end of a run that has no rules. -/
def rulesMissing (tree : Files.Tree) : Exclude.RulesFault → Outcome
  | .badRule fault => { ending := .broken (.badRule fault), tree }
  | .unlisted (.tooDeep words) => { ending := .broken (.rulesTooDeep words), tree }
  | .unlisted fault => rulesUnreadable tree fault.message
  | .unreadable reason => rulesUnreadable tree reason.message

/-- Carry the options out. -/
def carryOut [Platform] (options : Options) (tree : Files.Tree) : Outcome :=
  let root := rootOf options tree
  if lacksRoot options tree then { ending := .broken .noWorkingDirectory, tree }
  else
    match Audit.rootFault? tree root with
    | some (.rootMissing root) => rootMissing tree root
    | some (.unreachable fault) => { ending := .broken (.rootUnreachable fault), tree }
    | none =>
      match Exclude.rulesOfTree tree root options.exclude options.respectGitignore with
      | .error fault => rulesMissing tree fault
      | .ok rules => auditRoot options tree root rules

/-- Run the command. -/
def run [Platform] (arguments : List Text) (tree : Files.Tree) : Outcome :=
  match read arguments with
  | .error fault =>
    { ending := .exit .usage
      complaint := faultText fault
      events := [.argumentsRejected arguments]
      tree }
  | .ok .help =>
    { ending := .exit .usage
      help := helpText
      events := [.argumentsRejected arguments]
      tree }
  | .ok (.audit options) =>
    let outcome := carryOut options tree
    { outcome with
      level := levelOf options
      events := Event.visibleFrom (levelOf options) outcome.events }

end SiteAudit.Command
