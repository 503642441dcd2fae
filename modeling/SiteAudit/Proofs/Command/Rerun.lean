/-
  Running again.

  * `Aside`: no report is named like a source, and none is or stands in anything that
    is named like a rule file.
  * `IsListable`: directories that are new below the root can be looked at and are not
    nested too deep.
  * `audited_again_iff`: such reports are out of sight of an audit, as long as it can
    go into the directories made for them.
  * `run_again`: so a run after a successful one leaves every file as it is, and
    succeeds exactly if it can go into those directories.
-/
import SiteAudit.Proofs.Audit.Noninterference
import SiteAudit.Proofs.Command.Stages
import SiteAudit.Proofs.Exclude.Agreement
import SiteAudit.Proofs.Report.Again

namespace SiteAudit.Command

open Files Report
open Source (hasSuffix linkSuffixes relativePath)
open Exclude (ruleFileName)

variable {arguments : List Text} {tree left : Tree} {options : Options} {audit again : Audit}
  {documents : List Document} {path other root : Path} {name : Text} {location : Location}
  {front : List Text} {rules : List Exclude.Rule}

/-! ## Paths of reports -/

theorem AskedFor.isCut [Platform] (h : AskedFor options audit documents) :
    ∀ document ∈ documents, document.path.IsCut := by
  obtain ⟨output, markdown, tables, json, -, -, -, htables, hjson, rfl⟩ := h
  have hstem := (Path.isCut_ofText output).slash_notMem_stem
  have hbeside : ∀ document ∈ tables, document.path.IsCut := by
    rw [TablesAskedFor] at htables
    split at htables
    · obtain ⟨routes, links, linkTable, hroutes, hlinks, -, rfl⟩ := htables
      have hcutRoutes : routes.IsCut := (Path.isCut_ofText output).withName (by simp [hstem]) hroutes
      have hcutLinks : links.IsCut := (Path.isCut_ofText output).withName (by simp [hstem]) hlinks
      simp [hcutRoutes, hcutLinks]
    · simp [htables]
  intro document hmem
  rcases List.mem_append.1 hmem with hmem | hmem
  · rcases List.mem_cons.1 hmem with rfl | hmem
    · exact Path.isCut_ofText output
    · exact hbeside document hmem
  · rw [JsonAskedFor] at hjson
    split at hjson
    · simp [hjson] at hmem
    · obtain ⟨content, -, rfl⟩ := hjson
      obtain rfl := List.mem_singleton.1 hmem
      exact Path.isCut_ofText _

/-! ## Reports out of sight -/

/-- No report is named like a source, and none is or stands in anything that is named
    like a rule file. -/
def Aside (documents : List Document) : Prop :=
  ∀ document ∈ documents, hasSuffix linkSuffixes document.path = false ∧ ruleFileName ∉ document.path.parts

theorem Aside.not_isReportName (h : Aside documents) (hsource : hasSuffix linkSuffixes (relativePath (front ++ [name])) = true) :
    ¬ IsReportName documents name := by
  rintro ⟨document, hmem, rfl⟩
  have hsame : hasSuffix linkSuffixes (relativePath (front ++ [document.path.name])) =
      hasSuffix linkSuffixes document.path := by
    simp [hasSuffix, relativePath, Path.suffix, Path.name]
  rw [hsame, (h document hmem).1] at hsource
  cases hsource

theorem Aside.not_isOnTheWay (h : Aside documents) : ¬ IsOnTheWay documents ruleFileName := by
  rintro ⟨document, hmem, hpart⟩
  exact (h document hmem).2 hpart

theorem Aside.not_isReportName_ruleFileName (h : Aside documents) : ¬ IsReportName documents ruleFileName := by
  rintro ⟨document, hmem, hname⟩
  rcases Path.name_mem_or_nil document.path with hpart | hnil
  · exact (h document hmem).2 (hname ▸ hpart)
  · exact absurd (hname.trans hnil) (by decide)

/-- An audit can go into a directory below a root. -/
structure IsReachable [Platform] (root : Path) (names : List Text) : Prop where
  short : exceeds maxPathBytes (root.below names).text = false
  forPages : names.length ≤ Platform.maxDepth .pages
  forLinks : names.length ≤ Platform.maxDepth .links

/-- What a run leaves, beside what it finds. -/
structure Leaves (documents : List Document) (tree left : Tree) : Prop where
  plain : tree.Plain
  aside : Aside documents
  grows : tree.Grows left
  retains : Tree.Retains (IsOnTheWay documents) (IsReportName documents) tree left

namespace Leaves

variable (leaves : Leaves documents tree left)
include leaves

theorem site (hroot : tree.reach root .look = .ok (.entry location .directory)) : tree.Site root location :=
  ⟨leaves.plain.toSound, hroot, fun _ _ => leaves.plain.linkFree⟩

theorem leftSite (hroot : tree.reach root .look = .ok (.entry location .directory)) : left.Site root location := by
  refine ⟨leaves.retains.plain.toSound, ?_, fun _ _ => leaves.retains.plain.linkFree⟩
  exact Tree.reach_look_of_grows leaves.grows hroot (leaves.grows.directory (Tree.reach_shows hroot)) trivial

theorem sameRuleFiles : Exclude.SameRuleFiles tree left location := by
  intro front
  rw [← List.append_assoc]
  exact leaves.retains.node?_eq leaves.aside.not_isOnTheWay leaves.aside.not_isReportName_ruleFileName

/-- No source comes, goes, or changes. -/
theorem file_iff (hdir : tree.node? location = some .directory) {names : List Text} {bytes : Text.Utf8.Bytes}
    (hsource : hasSuffix linkSuffixes (relativePath names) = true) :
    left.node? (location ++ names) = some (.file bytes) ↔ tree.node? (location ++ names) = some (.file bytes) := by
  rcases List.eq_nil_or_concat names with rfl | ⟨front, name, rfl⟩
  · simp [hdir, leaves.grows.directory hdir]
  · rw [List.concat_eq_append] at hsource ⊢
    rw [← List.append_assoc]
    exact leaves.retains.file_iff (leaves.aside.not_isReportName hsource)

theorem sameParts (hdir : tree.node? location = some .directory) :
    Audit.SameParts rules rules left tree location location := by
  intro names bytes
  refine and_congr_left fun hpart => leaves.file_iff hdir ?_
  simp only [Audit.takesPart, Bool.and_eq_true] at hpart
  exact hpart.1.1

theorem directory_cases {place : Location} (h : left.node? place = some .directory) :
    tree.node? place = some .directory ∨ tree.node? place = none := by
  cases hnode : tree.node? place with
  | none => exact Or.inr rfl
  | some node =>
    cases node with
    | directory => exact Or.inl rfl
    | link target => exact absurd hnode leaves.plain.linkFree
    | file bytes =>
      obtain ⟨others, hfile⟩ := leaves.grows.file hnode
      simp [h] at hfile

section
variable [Platform]

/-- Among files with some of the suffixes only directories are new. -/
theorem sourceFits_iff {errand : Errand} {suffixes : List Text} (hsub : suffixes ⊆ linkSuffixes)
    (hdir : tree.node? location = some .directory) (hfits : Source.Fits errand tree root location suffixes) :
    Source.Fits errand left root location suffixes ↔ ∀ names, tree.node? (location ++ names) = none →
      left.node? (location ++ names) = some .directory →
        exceeds maxPathBytes (root.below names).text = false ∧ names.length ≤ Platform.maxDepth errand := by
  constructor
  · intro hleft names _ hmade
    exact ⟨hleft.short names _ hmade (Or.inl rfl), hleft.shallow names hmade⟩
  · refine fun hnew => ⟨fun names node hnode hlooked => ?_, fun names hnode => ?_⟩
    · cases node with
      | link target => exact absurd hnode leaves.retains.plain.linkFree
      | directory =>
        rcases leaves.directory_cases hnode with hold | habsent
        · exact hfits.short names _ hold (Or.inl rfl)
        · exact (hnew names habsent hnode).1
      | file bytes =>
        have hne : names ≠ [] := by
          rintro rfl
          simp [leaves.grows.directory hdir] at hnode
        have hsuffix : hasSuffix suffixes (root.below names) = true := by simpa [Source.IsLookedAt] using hlooked
        have hsource : hasSuffix linkSuffixes (relativePath names) = true :=
          (Source.hasSuffix_below root hne).symm.trans (Source.hasSuffix_mono hsub hsuffix)
        exact hfits.short names _ ((leaves.file_iff hdir hsource).1 hnode) (Or.inr hsuffix)
    · rcases leaves.directory_cases hnode with hold | habsent
      · exact hfits.shallow names hold
      · exact (hnew names habsent hnode).2

theorem fits_iff (hdir : tree.node? location = some .directory) (hfits : Audit.Fits tree root location) :
    Audit.Fits left root location ↔ ∀ names, tree.node? (location ++ names) = none →
      left.node? (location ++ names) = some .directory → IsReachable root names := by
  have hpages := leaves.sourceFits_iff Audit.pageSuffixes_subset hdir hfits.pages
  have hlinks := leaves.sourceFits_iff (List.Subset.refl _) hdir hfits.links
  constructor
  · intro hleft names habsent hmade
    obtain ⟨hshort, hforPages⟩ := hpages.1 hleft.pages names habsent hmade
    exact ⟨hshort, hforPages, (hlinks.1 hleft.links names habsent hmade).2⟩
  · intro hnew
    refine ⟨hpages.2 fun names habsent hmade => ?_, hlinks.2 fun names habsent hmade => ?_⟩
    · exact ⟨(hnew names habsent hmade).short, (hnew names habsent hmade).forPages⟩
    · exact ⟨(hnew names habsent hmade).short, (hnew names habsent hmade).forLinks⟩

theorem listed_iff (hroot : tree.reach root .look = .ok (.entry location .directory))
    (hlisted : tree.listingFault? .rules (some ruleFileName) root = none) :
    left.listingFault? .rules (some ruleFileName) root = none ↔ ∀ names, tree.node? (location ++ names) = none →
      left.node? (location ++ names) = some .directory → Exclude.IsSearchable root names := by
  rw [Exclude.listingFault?_eq_none_iff (leaves.site hroot)] at hlisted
  rw [Exclude.listingFault?_eq_none_iff (leaves.leftSite hroot)]
  constructor
  · intro hleft names _ hmade
    exact hleft names hmade
  · intro hnew names hnode
    rcases leaves.directory_cases hnode with hold | habsent
    · exact hlisted names hold
    · exact hnew names habsent hnode

theorem rulesOfTree_eq {given : List Text} {withRuleFiles : Bool}
    (hroot : tree.reach root .look = .ok (.entry location .directory))
    (hlisted : withRuleFiles = true → left.listingFault? .rules (some ruleFileName) root = none)
    (h : Exclude.rulesOfTree tree root given withRuleFiles = .ok rules) :
    Exclude.rulesOfTree left root given withRuleFiles = .ok rules := by
  rw [← h]
  refine Exclude.rulesOfTree_eq (leaves.site hroot) (leaves.leftSite hroot) leaves.sameRuleFiles fun hasked => ?_
  subst hasked
  rw [hlisted rfl, Exclude.listingFault?_of_rulesOfTree h]

theorem ofTree_eq (hroot : tree.reach root .look = .ok (.entry location .directory))
    (hfits : Audit.Fits left root location) (h : Audit.ofTree tree root rules = .ok audit) :
    Audit.ofTree left root rules = .ok audit := by
  have site := leaves.site hroot
  have leftSite := leaves.leftSite hroot
  have hfound := (Audit.exists_ofTree_iff site).1 ⟨audit, h⟩
  rw [← h, Audit.ofTree_eq_ofFiles leftSite hfits, Audit.ofTree_eq_ofFiles site hfound,
    (leaves.sameParts site.directory).files_eq leftSite site]

end

end Leaves

/-! ## Auditing again -/

/-- An audit can go into the directories that are new below the root, and search them
    for rule files if those are asked for. -/
def IsListable [Platform] (options : Options) (before after : Tree) : Prop :=
  ∀ location names, before.locate? (rootOf options before) = some location →
    before.node? (location ++ names) = none → after.node? (location ++ names) = some .directory →
    IsReachable (rootOf options before) names ∧
      (options.respectGitignore = true → Exclude.IsSearchable (rootOf options before) names)

theorem isDirectory_of_ofTree [Platform] (h : Audit.ofTree tree root rules = .ok audit) :
    tree.isDirectory root = true := by
  cases hroot : Audit.rootFault? tree root with
  | some fault => simp [Audit.ofTree, hroot] at h
  | none =>
    rw [Audit.rootFault?] at hroot
    split at hroot
    · cases hroot
    · simpa using hroot

theorem lacksRoot_of_grows (h : tree.Grows left) (hstands : lacksRoot options tree = false) :
    lacksRoot options left = false := by
  simp only [lacksRoot, Bool.and_eq_false_iff, bne_eq_false_iff_eq] at hstands ⊢
  rw [h.here]
  exact hstands.imp_right h.directory

/-- **What a run leaves is audited as what it found**, if an audit can go into the new
    directories, and is not audited otherwise. -/
theorem audited_again_iff [Platform] (leaves : Leaves documents tree left) (h : Audited options tree audit) :
    Audited options left again ↔ again = audit ∧ IsListable options tree left := by
  obtain ⟨hstands, rules, hrules, haudit⟩ := h
  obtain ⟨location, hroot⟩ := Tree.isDirectory_iff.1 (isDirectory_of_ofTree haudit)
  have hsameRoot : rootOf options left = rootOf options tree := by rw [rootOf, rootOf, leaves.grows.here]
  have hlocated : tree.locate? (rootOf options tree) = some location := Tree.locate?_eq_some_iff.2 ⟨_, hroot⟩
  rw [Audited, hsameRoot, IsListable, and_iff_right (lacksRoot_of_grows leaves.grows hstands)]
  generalize rootOf options tree = root at *
  have site := leaves.site hroot
  have hfits := (Audit.exists_ofTree_iff site).1 ⟨audit, haudit⟩
  have hlisted (hasked : options.respectGitignore = true) :
      tree.listingFault? .rules (some ruleFileName) root = none :=
    Exclude.listingFault?_of_rulesOfTree (hasked ▸ hrules)
  constructor
  · rintro ⟨others, hothers, hagain⟩
    have hleftListed (hasked : options.respectGitignore = true) :
        left.listingFault? .rules (some ruleFileName) root = none :=
      Exclude.listingFault?_of_rulesOfTree (hasked ▸ hothers)
    obtain rfl := Except.ok.inj (hothers.symm.trans (leaves.rulesOfTree_eq hroot hleftListed hrules))
    have hleftFits := (Audit.exists_ofTree_iff (leaves.leftSite hroot)).1 ⟨again, hagain⟩
    refine ⟨Except.ok.inj (hagain.symm.trans (leaves.ofTree_eq hroot hleftFits haudit)), ?_⟩
    intro place names hplace habsent hmade
    obtain rfl := Option.some.inj (hlocated.symm.trans hplace)
    exact ⟨(leaves.fits_iff site.directory hfits).1 hleftFits names habsent hmade, fun hasked =>
      (leaves.listed_iff hroot (hlisted hasked)).1 (hleftListed hasked) names habsent hmade⟩
  · rintro ⟨rfl, hlistable⟩
    have hleftListed (hasked : options.respectGitignore = true) :
        left.listingFault? .rules (some ruleFileName) root = none :=
      (leaves.listed_iff hroot (hlisted hasked)).2 fun names habsent hmade =>
        (hlistable location names hlocated habsent hmade).2 hasked
    have hleftFits := (leaves.fits_iff site.directory hfits).2 fun names habsent hmade =>
      (hlistable location names hlocated habsent hmade).1
    exact ⟨rules, leaves.rulesOfTree_eq hroot hleftListed hrules, leaves.ofTree_eq hroot hleftFits haudit⟩

/-! ## Running again -/

theorem leaves_writeAll [Platform] (hplain : tree.Plain) (haside : Aside documents)
    (hasked : AskedFor options audit documents) : Leaves documents tree (writeAll tree documents).1 :=
  ⟨hplain, haside, (writeAll_delivered documents tree).changes.grows, writeAll_retains hplain hasked.isCut⟩

/-- **A run after a successful one leaves every file as it is.**  It succeeds as well
    exactly if an audit can go into the directories that the first run made below the
    root. -/
theorem run_again [Platform] (arguments : List Text) (tree : Tree) (hplain : tree.Plain)
    (haside : Aside (plannedReports arguments tree)) (hsuccess : (run arguments tree).ending = .exit .success) :
    (run arguments tree).tree.SameFiles (run arguments (run arguments tree).tree).tree ∧
      ((run arguments (run arguments tree).tree).ending = .exit .success ↔
        ∀ options, read arguments = .ok (.audit options) → IsListable options tree (run arguments tree).tree) := by
  rcases run_cases arguments tree with ⟨options, audit, hplanned, hwrote⟩ | ⟨-, hstopped⟩
  · generalize hdocuments : plannedReports arguments tree = documents at *
    obtain ⟨hagain, hsame⟩ := writeAll_again (hwrote.2.1 hsuccess)
    have leaves := leaves_writeAll hplain haside hplanned.asked
    have hread := hplanned.read
    rw [hwrote.1]
    have haudited (again : Audit) : Audited options (writeAll tree documents).1 again ↔
        again = audit ∧ IsListable options tree (writeAll tree documents).1 :=
      audited_again_iff leaves hplanned.audited
    have hforall : (∀ others, read arguments = .ok (.audit others) → IsListable others tree (writeAll tree documents).1) ↔
        IsListable options tree (writeAll tree documents).1 := by
      simp [hread]
    rw [hforall]
    rcases run_cases arguments (writeAll tree documents).1 with ⟨others, again, hreplanned, hrewrote⟩ | ⟨hnil, hstopped⟩
    · -- The second run plans the same reports.
      obtain rfl : others = options := by simpa [hreplanned.read] using hread
      obtain ⟨rfl, hlistable⟩ := (haudited again).1 hreplanned.audited
      have hdocuments' : plannedReports arguments (writeAll tree documents).1 = documents :=
        Except.ok.inj ((documents_eq_ok_iff.2 hreplanned.asked).symm.trans (documents_eq_ok_iff.2 hplanned.asked))
      rw [hdocuments'] at hrewrote
      rw [hrewrote.1]
      exact ⟨hsame, iff_of_true (hrewrote.2.2 hagain) hlistable⟩
    · -- The second run has nothing to write, so it could not list what is new.
      rw [hstopped.1]
      refine ⟨fun _ _ => Iff.rfl, iff_of_false hstopped.2 fun hlistable => ?_⟩
      have hreplanned : Planned arguments (writeAll tree documents).1 options audit documents :=
        ⟨hread, (haudited audit).2 ⟨rfl, hlistable⟩, hplanned.asked⟩
      exact hplanned.asked.ne_nil (hreplanned.plannedReports_eq.symm.trans hnil)
  · exact absurd hsuccess hstopped.2

/-- A page and a rule file in the working directory. -/
def ruled : Tree :=
  ((Tree.emptyAt [['w']]).put [['w'], "a.razor".toList] (.file (Text.Utf8.encode "@page \"/\"".toList))).put
    [['w'], ruleFileName] (.file (Text.Utf8.encode "*.html\n".toList))

/-- Reports in the root and in a new directory below it. -/
def within : List Text :=
  ["--csv".toList, "--respect-gitignore".toList, "--json-output=out/routes.json".toList]

section
open scoped Platform.Usual

/-- Reports below the root are not audited. -/
theorem run_again_within : (run within ruled).ending = .exit .success ∧
    (run within ruled).tree.SameFiles (run within (run within ruled).tree).tree ∧
      (run within (run within ruled).tree).ending = .exit .success := by
  have hsuccess : (run within ruled).ending = .exit .success := by decide +kernel
  have haside : Aside (plannedReports within ruled) := by
    unfold Aside
    decide +kernel
  have hagain : (run within (run within ruled).tree).ending = .exit .success := by decide +kernel
  exact ⟨hsuccess, (run_again within ruled (by decide +kernel) haside hsuccess).1, hagain⟩

end

/-- A root with a long path, and a report in a new directory below it. -/
def far : List Text :=
  ["--path".toList, Audit.winding.text, "--output".toList,
    Audit.longName ++ '/' :: List.replicate 100 'q' ++ "/routes.md".toList]

section
open scoped Platform.Usual

/-- A run can put its own report where the next one cannot look. -/
theorem run_again_fails : Audit.shallow.Plain ∧ Aside (plannedReports far Audit.shallow) ∧
    (run far Audit.shallow).ending = .exit .success ∧
      (run far (run far Audit.shallow).tree).ending = .exit .failure := by
  refine ⟨by decide +kernel, ?_, by decide +kernel, by decide +kernel⟩
  unfold Aside
  decide +kernel

end

end SiteAudit.Command
