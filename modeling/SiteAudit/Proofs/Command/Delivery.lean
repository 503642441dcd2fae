/-
  What a run leaves in the tree.

  * `success_delivers`: a run that succeeds has written all reports it was asked
    for and has touched nothing else.
  * `failure_delivers`: a run that fails has written the reports before the one
    that cannot be written.  So it has changed no file exactly if each of these
    was there before.
-/
import SiteAudit.Proofs.Command.Stages
import SiteAudit.Proofs.Report.Delivery

namespace SiteAudit.Command

open Files Report

variable {arguments : List Text} {tree left : Tree} {documents : List Document}

/-! ## Success -/

/-- What a run has done when all its reports are written. -/
structure Accomplished [Platform] (arguments : List Text) (tree left : Tree) (options : Options)
    (audit : Audit) (documents : List Document) : Prop where
  planned : Planned arguments tree options audit documents
  /-- Where a report goes, the last report is read that goes there. -/
  held : ∀ document ∈ documents, ∃ location last, left.locate? document.path = some location ∧
    LastAt left documents location last ∧
    left.read document.path = .ok (Text.Utf8.encode last.content)
  /-- Elsewhere nothing changes but that directories are made above reports. -/
  elsewhere : ∀ location, (∀ document ∈ documents, left.locate? document.path ≠ some location) →
    left.node? location = tree.node? location ∨
      tree.node? location = none ∧ left.node? location = some .directory ∧
        ∃ path, AboveSome documents path ∧ left.locate? path = some location
  /-- Nothing goes: files stay files. -/
  grows : tree.Grows left

theorem elsewhere_of_delivered (h : Delivered (AboveSome documents) tree left documents)
    {location : Location} (hno : ∀ document ∈ documents, left.locate? document.path ≠ some location) :
    left.node? location = tree.node? location ∨
      tree.node? location = none ∧ left.node? location = some .directory ∧
        ∃ path, AboveSome documents path ∧ left.locate? path = some location := by
  rcases h.changes.changedAt location with hsame | ⟨habsent, hpresent, hled⟩ |
    ⟨-, -, _, ⟨document, hmem, rfl⟩, hled⟩
  · exact Or.inl hsame
  · exact Or.inr ⟨habsent, hpresent, hled⟩
  · exact absurd hled (hno document hmem)

/-- **A run that succeeds has delivered its reports, and done nothing else.** -/
theorem success_delivers [Platform] (arguments : List Text) (tree : Tree)
    (h : (run arguments tree).ending = .exit .success) :
    ∃ options audit documents,
      Accomplished arguments tree (run arguments tree).tree options audit documents := by
  rcases run_cases arguments tree with ⟨options, audit, hplanned, hwrote⟩ | ⟨-, hstopped⟩
  · have hall := delivered_eq_self_iff.2 (hwrote.2.1 h)
    have hdelivered := writeAll_delivered (plannedReports arguments tree) tree
    rw [hall, ← hwrote.1] at hdelivered
    exact ⟨options, audit, _, hplanned, fun _ hmem => hdelivered.read_eq hmem,
      fun _ hno => elsewhere_of_delivered hdelivered hno, hdelivered.changes.grows⟩
  · exact absurd h hstopped.2

/-- A working directory with one page, and with a directory in the way of one
    report. -/
def workplace (inTheWay : Text) : Tree :=
  ((Tree.emptyAt [['w']]).put [['w'], "a.razor".toList] (.file (Text.Utf8.encode "@page \"/\"".toList))).put
    [['w'], inTheWay] .directory

/-- The tables, and a JSON document over the Markdown report. -/
def aliased : List Text :=
  ["--csv".toList, "--json-output=./routes.md".toList]

section
open scoped Platform.Usual

/-- The JSON document is what is read in the end. -/
theorem success_delivers_aliased :
    (run aliased (workplace "x".toList)).ending = .exit .success ∧
      ∃ options audit documents, Accomplished aliased (workplace "x".toList)
        (run aliased (workplace "x".toList)).tree options audit documents := by
  have hsuccess : (run aliased (workplace "x".toList)).ending = .exit .success := by decide +kernel
  exact ⟨hsuccess, success_delivers aliased (workplace "x".toList) hsuccess⟩

end

/-! ## Failure -/

/-- **A run that fails has delivered the reports before the failure**, and not
    all of them.  It has changed no file exactly if each of these files held its
    report before. -/
theorem failure_delivers [Platform] (arguments : List Text) (tree : Tree)
    (h : (run arguments tree).ending = .exit .failure) :
    delivered tree (plannedReports arguments tree) <+: plannedReports arguments tree ∧
    (plannedReports arguments tree ≠ [] →
      delivered tree (plannedReports arguments tree) ≠ plannedReports arguments tree) ∧
    Delivered (AboveSome (plannedReports arguments tree)) tree (run arguments tree).tree
      (delivered tree (plannedReports arguments tree)) ∧
    (tree.SameFiles (run arguments tree).tree ↔ ∀ location document,
      LastAt (run arguments tree).tree (delivered tree (plannedReports arguments tree)) location document →
      tree.node? location = some (.file (Text.Utf8.encode document.content))) := by
  have hdelivered := writeAll_delivered (plannedReports arguments tree) tree
  rw [← run_tree] at hdelivered
  refine ⟨delivered_initial _ _, fun hne hall => ?_, hdelivered, hdelivered.sameFiles_iff⟩
  rcases run_cases arguments tree with ⟨_, _, -, hwrote⟩ | ⟨hnil, -⟩
  · rw [hwrote.2.2 (delivered_eq_self_iff.1 hall)] at h
    simp at h
  · exact hne hnil

section
open scoped Platform.Usual

/-- A directory where the Markdown report should go: no report is delivered, and
    no file changes. -/
theorem failure_delivers_nothing :
    (run ["--csv".toList] (workplace "routes.md".toList)).ending = .exit .failure ∧
      (workplace "routes.md".toList).SameFiles
        (run ["--csv".toList] (workplace "routes.md".toList)).tree := by
  have hnone : delivered (workplace "routes.md".toList)
      (plannedReports ["--csv".toList] (workplace "routes.md".toList)) = [] := by decide +kernel
  have hfailure : (run ["--csv".toList] (workplace "routes.md".toList)).ending = .exit .failure := by
    decide +kernel
  refine ⟨hfailure, (failure_delivers ["--csv".toList] _ hfailure).2.2.2.2 ?_⟩
  rw [hnone]
  rintro location document ⟨earlier, later, heq, -⟩
  simp at heq

/-- A directory where the routes table should go: the run fails, and leaves a new
    Markdown report. -/
theorem failure_leaves_markdown :
    (run ["--csv".toList] (workplace "routes_routes.csv".toList)).ending = .exit .failure ∧
      ¬ (workplace "routes_routes.csv".toList).SameFiles
        (run ["--csv".toList] (workplace "routes_routes.csv".toList)).tree := by
  refine ⟨by decide +kernel, fun hsame => ?_⟩
  have hbefore : (workplace "routes_routes.csv".toList).node? [['w'], "routes.md".toList] = none := by
    decide +kernel
  have hafter : (run ["--csv".toList] (workplace "routes_routes.csv".toList)).tree.node?
      [['w'], "routes.md".toList] = some (.file (Text.Utf8.encode
        (((plannedReports ["--csv".toList] (workplace "routes_routes.csv".toList)).map (·.content)).headD []))) := by
    decide +kernel
  rw [(hsame _ _).1 hafter] at hbefore
  simp at hbefore

end

end SiteAudit.Command
