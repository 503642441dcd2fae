import SiteAudit.Audit.Basic
import SiteAudit.Audit.OfTree
import SiteAudit.Command.Options
import SiteAudit.Command.Run
import SiteAudit.Command.Summary
import SiteAudit.Command.Usage
import SiteAudit.Event
import SiteAudit.Exclude.Glob
import SiteAudit.Exclude.Rebase
import SiteAudit.Exclude.Rule
import SiteAudit.Exclude.RuleFiles
import SiteAudit.Exclude.Rules
import SiteAudit.Files.Change
import SiteAudit.Files.Listing
import SiteAudit.Files.Path
import SiteAudit.Files.Staging
import SiteAudit.Files.Tree
import SiteAudit.Files.Walk
import SiteAudit.Link.Basic
import SiteAudit.Link.Destination
import SiteAudit.Link.Occurrence
import SiteAudit.Main
import SiteAudit.Page.Access
import SiteAudit.Page.Comment
import SiteAudit.Page.Declaration
import SiteAudit.Platform
import SiteAudit.Proofs.Audit.Noninterference
import SiteAudit.Proofs.Audit.ReportOrder
import SiteAudit.Proofs.Command.Apart
import SiteAudit.Proofs.Command.Delivery
import SiteAudit.Proofs.Command.Endings
import SiteAudit.Proofs.Command.Rerun
import SiteAudit.Proofs.Command.Stages
import SiteAudit.Proofs.Exclude.Below
import SiteAudit.Proofs.Exclude.Composition
import SiteAudit.Proofs.Exclude.Directory
import SiteAudit.Proofs.Exclude.Faults
import SiteAudit.Proofs.Exclude.Line
import SiteAudit.Proofs.Exclude.Nesting
import SiteAudit.Proofs.Exclude.Precedence
import SiteAudit.Proofs.Exclude.RebasedPattern
import SiteAudit.Proofs.Exclude.Rebasing
import SiteAudit.Proofs.Files.Below
import SiteAudit.Proofs.Files.Changes
import SiteAudit.Proofs.Files.Descent
import SiteAudit.Proofs.Files.Following
import SiteAudit.Proofs.Files.Growth
import SiteAudit.Proofs.Files.Naming
import SiteAudit.Proofs.Files.Retained
import SiteAudit.Proofs.Files.Siblings
import SiteAudit.Proofs.Files.Standing
import SiteAudit.Proofs.Link.Destination
import SiteAudit.Proofs.Link.Idioms
import SiteAudit.Proofs.Link.Lookup
import SiteAudit.Proofs.Link.Numbering
import SiteAudit.Proofs.Link.Occurrence
import SiteAudit.Proofs.Link.Query
import SiteAudit.Proofs.Link.Recased
import SiteAudit.Proofs.Link.Scheme
import SiteAudit.Proofs.Link.Tag
import SiteAudit.Proofs.Order
import SiteAudit.Proofs.Page.Comment
import SiteAudit.Proofs.Page.Declaration
import SiteAudit.Proofs.Page.Marks
import SiteAudit.Proofs.Page.Roles
import SiteAudit.Proofs.Page.WrittenRoles
import SiteAudit.Proofs.Report.Again
import SiteAudit.Proofs.Report.Beside
import SiteAudit.Proofs.Report.CsvReader
import SiteAudit.Proofs.Report.Delivery
import SiteAudit.Proofs.Report.JsonDocument
import SiteAudit.Proofs.Report.JsonReader
import SiteAudit.Proofs.Report.MarkdownTables
import SiteAudit.Proofs.Report.RoleColumns
import SiteAudit.Proofs.Route.Alike
import SiteAudit.Proofs.Route.Catalogue
import SiteAudit.Proofs.Route.Cuts
import SiteAudit.Proofs.Route.FinalSlash
import SiteAudit.Proofs.Route.Parts
import SiteAudit.Proofs.Route.Reading
import SiteAudit.Proofs.Route.Vocabulary
import SiteAudit.Proofs.Source.Consistency
import SiteAudit.Proofs.Source.OfTree
import SiteAudit.Proofs.Source.ReadBack
import SiteAudit.Proofs.Text.CaseOrder
import SiteAudit.Proofs.Text.CaseTables
import SiteAudit.Proofs.Text.Encoding
import SiteAudit.Proofs.Text.Lines
import SiteAudit.Proofs.Text.Names
import SiteAudit.Proofs.Text.Phrase
import SiteAudit.Proofs.Text.Recased
import SiteAudit.Proofs.Text.Scan
import SiteAudit.Proofs.Text.SmallForm
import SiteAudit.Proofs.Text.Spelling
import SiteAudit.Proofs.Text.Utf8
import SiteAudit.Report.Csv
import SiteAudit.Report.Json
import SiteAudit.Report.Markdown
import SiteAudit.Report.Number
import SiteAudit.Report.Paths
import SiteAudit.Report.Table
import SiteAudit.Report.Writing
import SiteAudit.Route.Basic
import SiteAudit.Route.Catalogue
import SiteAudit.Route.Template
import SiteAudit.Source.Basic
import SiteAudit.Source.Discovery
import SiteAudit.Text.Basic
import SiteAudit.Text.Blank
import SiteAudit.Text.CaseRun
import SiteAudit.Text.Cased
import SiteAudit.Text.CharRanges
import SiteAudit.Text.Columns
import SiteAudit.Text.Digit
import SiteAudit.Text.Enclosed
import SiteAudit.Text.Fold
import SiteAudit.Text.Lines
import SiteAudit.Text.Lower
import SiteAudit.Text.Order
import SiteAudit.Text.Phrase
import SiteAudit.Text.Printable
import SiteAudit.Text.Quoted
import SiteAudit.Text.SameLetter
import SiteAudit.Text.Scan
import SiteAudit.Text.Spelling
import SiteAudit.Text.Taking
import SiteAudit.Text.Upper
import SiteAudit.Text.Utf8
import SiteAudit.Text.Word
