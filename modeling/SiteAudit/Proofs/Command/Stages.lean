/-
  How far a run of the command gets.

  * `AskedFor`: the reports that options ask for, each with its path and with
    what an audit says in it.
  * `Audited`: the audit that options ask for.
  * `Planned`: the options, the audit and the reports of a run that gets to the
    writing of reports.
  * `carryOut_stage`: options are carried out by an audit of a root that is there, or
    nothing changes and nothing is printed.
  * `run_cases`: a run gets so far, and then leaves what `writeAll` leaves and
    succeeds exactly if it does; or it leaves the tree as it was and fails.
-/
import SiteAudit.Command.Run
import SiteAudit.Proofs.Success

namespace SiteAudit.Command

open Files Report

variable {arguments : List Text} {tree : Tree} {options : Options} {audit : Audit}
  {documents : List Document}

/-! ## Reports asked for -/

/-- The tables that options ask for beside a report. -/
def TablesAskedFor [Platform] (options : Options) (audit : Audit) (report : Path) (tables : List Document) :
    Prop :=
  if options.csv then
    ∃ routes links linkTable, routesCsvPath? report = some routes ∧ linksCsvPath? report = some links ∧
      Csv.renderLinks audit = .ok linkTable ∧
      tables = [⟨"Routes CSV".toList, routes, Csv.renderRoutes audit⟩, ⟨"Links CSV".toList, links, linkTable⟩]
  else tables = []

/-- The JSON document, if options ask for it. -/
def JsonAskedFor [Platform] (options : Options) (audit : Audit) (json : List Document) : Prop :=
  if options.jsonOutput = [] then json = []
  else
    ∃ document, renderJson audit = .ok document ∧
      json = [⟨"JSON export".toList, Path.ofText options.jsonOutput, document⟩]

/-- The reports that options ask for, in order. -/
def AskedFor [Platform] (options : Options) (audit : Audit) (documents : List Document) : Prop :=
  ∃ output markdown tables json, options.output = some output ∧ Markdown.render audit = .ok markdown ∧
    (∀ link ∈ audit.links, Platform.writes link.line = true) ∧
    TablesAskedFor options audit (Path.ofText output) tables ∧ JsonAskedFor options audit json ∧
    documents = ⟨"Markdown report".toList, Path.ofText output, markdown⟩ :: tables ++ json

theorem markdownOf_eq_ok_iff [Platform] {markdown : Text} : markdownOf audit = .ok markdown ↔
    Markdown.render audit = .ok markdown ∧ ∀ link ∈ audit.links, Platform.writes link.line = true := by
  simp only [markdownOf, bind_eq_ok_iff, mapError_eq_ok_iff, ifWritten_eq_ok_iff]
  constructor
  · rintro ⟨_, hmarkdown, hlines, rfl⟩
    exact ⟨hmarkdown, hlines⟩
  · rintro ⟨hmarkdown, hlines⟩
    exact ⟨markdown, hmarkdown, hlines, rfl⟩

theorem tablesOf_eq_ok_iff [Platform] {report : Path} {tables : List Document} :
    tablesOf options audit report = .ok tables ↔ TablesAskedFor options audit report tables := by
  rw [tablesOf, TablesAskedFor]
  split
  · split
    · next routes links hroutes hlinks =>
      simp only [hroutes, hlinks, map_eq_ok_iff, mapError_eq_ok_iff, Option.some.injEq]
      constructor
      · rintro ⟨linkTable, hlinkTable, rfl⟩
        exact ⟨routes, links, linkTable, rfl, rfl, hlinkTable, rfl⟩
      · rintro ⟨_, _, linkTable, rfl, rfl, hlinkTable, rfl⟩
        exact ⟨linkTable, hlinkTable, rfl⟩
    · next hnone =>
      refine iff_of_false (by simp) ?_
      rintro ⟨routes, links, _, hroutes, hlinks, -⟩
      exact hnone routes links hroutes hlinks
  · rw [Except.ok.injEq, eq_comm]

theorem jsonOf_eq_ok_iff [Platform] {json : List Document} :
    jsonOf options audit = .ok json ↔ JsonAskedFor options audit json := by
  rw [jsonOf, JsonAskedFor]
  split
  · rw [Except.ok.injEq, eq_comm]
  · simp only [map_eq_ok_iff, mapError_eq_ok_iff]
    exact exists_congr fun document => and_congr_right fun _ => eq_comm

theorem output_eq_ok_iff {output : Text} :
    (options.output.elim (.error .pathless) .ok : Except PlanFault Text) = .ok output ↔
      options.output = some output := by
  cases options.output <;> simp

theorem documents_eq_ok_iff [Platform] : Command.documents options audit = .ok documents ↔
    AskedFor options audit documents := by
  simp only [Command.documents, bind_eq_ok_iff, output_eq_ok_iff, markdownOf_eq_ok_iff, tablesOf_eq_ok_iff,
    jsonOf_eq_ok_iff, Except.ok.injEq]
  constructor
  · rintro ⟨output, houtput, markdown, ⟨hmarkdown, hlines⟩, tables, htables, json, hjson, rfl⟩
    exact ⟨output, markdown, tables, json, houtput, hmarkdown, hlines, htables, hjson, rfl⟩
  · rintro ⟨output, markdown, tables, json, houtput, hmarkdown, hlines, htables, hjson, rfl⟩
    exact ⟨output, houtput, markdown, ⟨hmarkdown, hlines⟩, tables, htables, json, hjson, rfl⟩

theorem AskedFor.ne_nil [Platform] (h : AskedFor options audit documents) : documents ≠ [] := by
  obtain ⟨_, _, _, _, -, -, -, -, -, rfl⟩ := h
  simp

/-! ## Stages -/

/-- The audit that options ask for, of a tree as it is. -/
def Audited [Platform] (options : Options) (tree : Tree) (audit : Audit) : Prop :=
  lacksRoot options tree = false ∧ ∃ rules,
    Exclude.rulesOfTree tree (rootOf options tree) options.exclude options.respectGitignore = .ok rules ∧
    Audit.ofTree tree (rootOf options tree) rules = .ok audit

/-- What a run sets out to write. -/
structure Planned [Platform] (arguments : List Text) (tree : Tree) (options : Options) (audit : Audit)
    (documents : List Document) : Prop where
  read : read arguments = .ok (.audit options)
  /-- The tree is audited as it is before the run. -/
  audited : Audited options tree audit
  asked : AskedFor options audit documents

/-- The reports that a run sets out to write; none if it ends before. -/
def plannedReports [Platform] (arguments : List Text) (tree : Tree) : List Document :=
  match read arguments with
  | .ok (.audit options) =>
    let root := rootOf options tree
    if lacksRoot options tree then []
    else
      match Exclude.rulesOfTree tree root options.exclude options.respectGitignore with
      | .ok rules =>
        match Audit.ofTree tree root rules with
        | .ok audit => (Command.documents options audit).toOption.getD []
        | .error _ => []
      | .error _ => []
  | _ => []

/-- A run that has not come to the writing of reports. -/
def Outcome.Stopped (outcome : Outcome) (tree : Tree) : Prop :=
  outcome.tree = tree ∧ outcome.ending ≠ .exit .success

/-- A run that has come to it, and has failed if it did. -/
def Outcome.Wrote [Platform] (outcome : Outcome) (tree : Tree) (documents : List Document) : Prop :=
  outcome.tree = (writeAll tree documents).1 ∧
    (outcome.ending = .exit .success ↔ (writeAll tree documents).2 = .ok ())

/-- A run that has printed nothing but complaints. -/
def Outcome.Silent (outcome : Outcome) : Prop :=
  outcome.stdout = [] ∧ outcome.help = []

variable {root : Path} {before : List Event}

theorem writingFailed_ending (tree : Tree) (root : Path) (failure : Failure) (before : List Event) :
    (writingFailed tree root failure before).tree = tree ∧
      (writingFailed tree root failure before).ending = .exit .failure := by
  rw [writingFailed]
  split <;> exact ⟨rfl, rfl⟩

theorem deliver_stopped [Platform] {fault : PlanFault} (h : Command.documents options audit = .error fault) :
    (deliver options tree root audit before).Stopped tree := by
  rw [deliver, h]
  exact ⟨rfl, by simp [failed]⟩

theorem deliver_wrote [Platform] (h : Command.documents options audit = .ok documents) :
    (deliver options tree root audit before).Wrote tree documents := by
  rw [deliver, h]
  cases hwrite : writeAll tree documents with
  | mk left result =>
    cases result with
    | ok _ => exact ⟨by simp [hwrite], by simp [hwrite]⟩
    | error failure =>
      obtain ⟨htree, hending⟩ := writingFailed_ending left root failure before
      exact ⟨by simp [hwrite, htree], by simp [hwrite, hending]⟩

theorem rulesMissing_stopped (tree : Tree) (fault : Exclude.RulesFault) :
    (rulesMissing tree fault).Stopped tree ∧ (rulesMissing tree fault).Silent := by
  cases fault with
  | unlisted fault => cases fault <;> exact ⟨⟨rfl, by simp [rulesMissing, rulesUnreadable]⟩, rfl, rfl⟩
  | unreadable reason => exact ⟨⟨rfl, by simp [rulesMissing, rulesUnreadable]⟩, rfl, rfl⟩
  | badRule fault => exact ⟨⟨rfl, by simp [rulesMissing]⟩, rfl, rfl⟩

/-- Options are carried out by auditing a root that is there, with its rules, or
    nothing comes of them. -/
theorem carryOut_stage [Platform] (options : Options) (tree : Tree) :
    (∃ rules, lacksRoot options tree = false ∧ Audit.rootFault? tree (rootOf options tree) = none ∧
      Exclude.rulesOfTree tree (rootOf options tree) options.exclude options.respectGitignore = .ok rules ∧
      carryOut options tree = auditRoot options tree (rootOf options tree) rules) ∨
    ((∀ audit, ¬ Audited options tree audit) ∧ (carryOut options tree).Stopped tree ∧
      (carryOut options tree).Silent) := by
  cases hlacks : lacksRoot options tree with
  | true =>
    refine Or.inr ⟨?_, ?_⟩
    · rintro audit ⟨hstands, -⟩
      exact Bool.false_ne_true (hstands.symm.trans hlacks)
    · rw [carryOut, hlacks]
      exact ⟨⟨rfl, by simp⟩, rfl, rfl⟩
  | false =>
    cases hroot : Audit.rootFault? tree (rootOf options tree) with
    | some fault =>
      refine Or.inr ⟨?_, ?_⟩
      · rintro audit ⟨-, rules, -, haudit⟩
        simp [Audit.ofTree, hroot] at haudit
      · rw [carryOut, hlacks, hroot]
        cases fault <;> exact ⟨⟨rfl, by simp [rootMissing]⟩, rfl, rfl⟩
    | none =>
      cases hrules : Exclude.rulesOfTree tree (rootOf options tree) options.exclude options.respectGitignore with
      | error fault =>
        have hcarry : carryOut options tree = rulesMissing tree fault := by
          simp only [carryOut, hlacks, hroot, hrules, Bool.false_eq_true, if_false]
        refine Or.inr ⟨?_, hcarry ▸ rulesMissing_stopped tree fault⟩
        rintro audit ⟨-, rules, hok, -⟩
        simp [hrules] at hok
      | ok rules =>
        refine Or.inl ⟨rules, rfl, rfl, rfl, ?_⟩
        simp only [carryOut, hlacks, hroot, hrules, Bool.false_eq_true, if_false]

/-- Options are carried out by delivering an audit, or not at all. -/
theorem carryOut_cases [Platform] (options : Options) (tree : Tree) :
    (∃ audit before, Audited options tree audit ∧
      carryOut options tree = deliver options tree (rootOf options tree) audit before) ∨
    ((∀ audit, ¬ Audited options tree audit) ∧ (carryOut options tree).Stopped tree) := by
  rcases carryOut_stage options tree with ⟨rules, hstands, -, hrules, hcarry⟩ | ⟨hno, hstopped, -⟩
  · rw [hcarry, auditRoot]
    cases haudit : Audit.ofTree tree (rootOf options tree) rules with
    | error fault =>
      refine Or.inr ⟨?_, ?_⟩
      · rintro audit ⟨-, others, hothers, hok⟩
        obtain rfl := Except.ok.inj (hrules.symm.trans hothers)
        simp [haudit] at hok
      · cases fault <;> exact ⟨rfl, by simp [rootMissing, failed]⟩
    | ok audit => exact Or.inl ⟨audit, _, ⟨hstands, rules, hrules, haudit⟩, rfl⟩
  · exact Or.inr ⟨hno, hstopped⟩

theorem plannedReports_eq [Platform] (h : read arguments = .ok (.audit options))
    (haudited : Audited options tree audit) :
    plannedReports arguments tree = (Command.documents options audit).toOption.getD [] := by
  obtain ⟨hstands, rules, hrules, haudit⟩ := haudited
  simp only [plannedReports, h, hstands, hrules, haudit, Bool.false_eq_true, if_false]

theorem Planned.plannedReports_eq [Platform] (h : Planned arguments tree options audit documents) :
    plannedReports arguments tree = documents := by
  rw [Command.plannedReports_eq h.read h.audited, documents_eq_ok_iff.2 h.asked]
  rfl

theorem plannedReports_eq_nil [Platform] (h : read arguments = .ok (.audit options))
    (hno : ∀ audit, ¬ Audited options tree audit) : plannedReports arguments tree = [] := by
  simp only [plannedReports, h]
  split
  · rfl
  · next hstands =>
    split
    · next rules hrules =>
      split
      · next audit haudit => exact absurd ⟨by simpa using hstands, rules, hrules, haudit⟩ (hno audit)
      · rfl
    · rfl

/-- **How far a run gets.**  Either it writes what it has planned, or it has
    planned nothing and stops. -/
theorem run_cases [Platform] (arguments : List Text) (tree : Tree) :
    (∃ options audit, Planned arguments tree options audit (plannedReports arguments tree) ∧
      (run arguments tree).Wrote tree (plannedReports arguments tree)) ∨
    (plannedReports arguments tree = [] ∧ (run arguments tree).Stopped tree) := by
  cases hread : read arguments with
  | error fault =>
    refine Or.inr ⟨by simp [plannedReports, hread], ?_⟩
    rw [run, hread]
    exact ⟨rfl, by simp⟩
  | ok request =>
    cases request with
    | help =>
      refine Or.inr ⟨by simp [plannedReports, hread], ?_⟩
      rw [run, hread]
      exact ⟨rfl, by simp⟩
    | audit options =>
      have htree : (run arguments tree).tree = (carryOut options tree).tree := by rw [run, hread]
      have hending : (run arguments tree).ending = (carryOut options tree).ending := by rw [run, hread]
      rw [Outcome.Wrote, Outcome.Stopped, htree, hending]
      rcases carryOut_cases options tree with ⟨audit, before, haudited, hcarry⟩ | ⟨hno, hstopped⟩
      · rw [hcarry]
        cases hdocuments : Command.documents options audit with
        | error fault =>
          refine Or.inr ⟨?_, deliver_stopped hdocuments⟩
          simp [plannedReports_eq hread haudited, hdocuments, Except.toOption]
        | ok documents =>
          have hplanned : plannedReports arguments tree = documents := by
            simp [plannedReports_eq hread haudited, hdocuments, Except.toOption]
          rw [hplanned]
          exact Or.inl ⟨options, audit, ⟨hread, haudited, documents_eq_ok_iff.1 hdocuments⟩,
            deliver_wrote hdocuments⟩
      · exact Or.inr ⟨plannedReports_eq_nil hread hno, hstopped⟩

theorem run_tree [Platform] (arguments : List Text) (tree : Tree) :
    (run arguments tree).tree = (writeAll tree (plannedReports arguments tree)).1 := by
  rcases run_cases arguments tree with ⟨_, _, -, hwrote⟩ | ⟨hnil, hstopped⟩
  · exact hwrote.1
  · rw [hnil, hstopped.1, writeAll]

end SiteAudit.Command
