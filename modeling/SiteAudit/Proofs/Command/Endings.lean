/-
  How runs end.

  * `Refused`, `Breaks`, `Fails`, `Succeeds`: what a run may meet, in terms of its
    arguments and of the tree that it is given, whose working directory stands.
  * `run_ending`: a run has an exit code unless it breaks, and which one it has is
    settled by what it meets.  Where the working directory is gone, a run that asks for
    it breaks.
  * `bad_pattern_breaks`: a pattern that cannot be a rule breaks a run, although it is
    a failure like others.
  * `early_untouched`: a run that is refused or breaks has changed nothing and has
    printed nothing.
-/
import SiteAudit.Proofs.Command.Stages
import SiteAudit.Proofs.Exclude.Faults
import SiteAudit.Proofs.Files.Standing

namespace SiteAudit.Command

open Files Report

variable {arguments : List Text} {tree : Tree} {options : Options} {root : Path}
  {rules : List Exclude.Rule}

/-! ## What a run may meet -/

/-- The working directory is there. -/
def Stands (tree : Tree) : Prop :=
  tree.node? tree.here = some .directory

/-- A run that is asked for an audit, and whose root is a directory. -/
structure Begun (arguments : List Text) (tree : Tree) (options : Options) : Prop where
  read : read arguments = .ok (.audit options)
  directory : tree.isDirectory (rootOf options tree) = true

/-- The run is refused. -/
inductive Refused [Platform] (arguments : List Text) (tree : Tree) : Prop
  /-- Arguments are not understood, or call for help. -/
  | unasked (other : ∀ options, read arguments ≠ .ok (.audit options))
  /-- The root is no directory, as far as it can be looked at. -/
  | rootMissing {options : Options} (read : read arguments = .ok (.audit options))
      (looked : tree.lookFault? (rootOf options tree) = none)
      (missing : tree.isDirectory (rootOf options tree) = false)
  | rulesUnreadable {options : Options} (begun : Begun arguments tree options)
      (asked : options.respectGitignore = true)
      (unreadable : Exclude.RuleFilesUnreadable tree (rootOf options tree))

/-- The run breaks. -/
inductive Breaks [Platform] (arguments : List Text) (tree : Tree) : Prop
  /-- The root cannot be looked at. -/
  | rootUnreachable {options : Options} {fault : Fault} (read : read arguments = .ok (.audit options))
      (unreachable : tree.lookFault? (rootOf options tree) = some fault)
  /-- Directories are nested too deep to be searched for rule files. -/
  | searchTooDeep {options : Options} {words : Text} (begun : Begun arguments tree options)
      (asked : options.respectGitignore = true)
      (deep : Exclude.SearchTooDeep tree (rootOf options tree) words)
  /-- A pattern that is given, or a line of a rule file, cannot be a rule. -/
  | badRule {options : Options} {lines : List Text} {line : Text} (begun : Begun arguments tree options)
      (read : Exclude.linesOfTree tree (rootOf options tree) options.exclude options.respectGitignore =
        .ok lines)
      (mem : line ∈ lines) (bad : Exclude.IsBadRule line)

/-- The run has its rules and comes to nothing after that: there is no audit, or the
    reports cannot be made, or not all of them can be written. -/
def Fails [Platform] (arguments : List Text) (tree : Tree) : Prop :=
  ∃ options rules, Begun arguments tree options ∧
    Exclude.rulesOfTree tree (rootOf options tree) options.exclude options.respectGitignore = .ok rules ∧
    ∀ audit documents, Planned arguments tree options audit documents → (writeAll tree documents).2 ≠ .ok ()

/-- All reports can be made and written. -/
def Succeeds [Platform] (arguments : List Text) (tree : Tree) : Prop :=
  ∃ options audit documents, Planned arguments tree options audit documents ∧
    (writeAll tree documents).2 = .ok ()

/-! ## Roots -/

theorem Stands.lacksRoot_eq (h : Stands tree) (options : Options) : lacksRoot options tree = false := by
  rw [Stands] at h
  simp [lacksRoot, h]

theorem rootFault?_of_isDirectory (h : tree.isDirectory root = true) : Audit.rootFault? tree root = none := by
  rw [Audit.rootFault?, Tree.lookFault?_of_isDirectory h]
  exact if_pos h

/-! ## From what a run meets to its ending -/

theorem deliver_ending [Platform] (options : Options) (tree : Tree) (root : Path) (audit : Audit) (before : List Event) :
    (deliver options tree root audit before).ending = .exit .failure ∨
      (deliver options tree root audit before).ending = .exit .success := by
  rw [deliver]
  split
  · exact Or.inl rfl
  · split
    · exact Or.inl (writingFailed_ending _ _ _ _).2
    · exact Or.inr rfl

/-- A run that has its rules is not refused any more and does not break. -/
theorem auditRoot_ending [Platform] (options : Options) (rules : List Exclude.Rule)
    (hroot : Audit.rootFault? tree root = none) :
    (auditRoot options tree root rules).ending = .exit .failure ∨
      (auditRoot options tree root rules).ending = .exit .success := by
  rw [auditRoot]
  cases haudit : Audit.ofTree tree root rules with
  | error fault =>
    cases fault with
    | rootMissing root' =>
      -- The root has been looked at before.
      rw [Audit.ofTree, hroot] at haudit
      cases hpages : Source.ofTree .pages tree root Source.pageSuffixes rules <;>
        cases hlinked : Source.ofTree .links tree root Source.linkSuffixes rules <;>
        simp [hpages, hlinked, bind, Except.bind, Except.mapError] at haudit
    | unreachable fault => exact Or.inl rfl
  | ok audit => exact deliver_ending options tree root audit _

theorem run_audit [Platform] (tree : Tree) (h : read arguments = .ok (.audit options)) :
    (run arguments tree).ending = (carryOut options tree).ending ∧
      (run arguments tree).tree = (carryOut options tree).tree ∧
      (run arguments tree).stdout = (carryOut options tree).stdout ∧
      (run arguments tree).help = (carryOut options tree).help := by
  rw [run, h]
  exact ⟨rfl, rfl, rfl, rfl⟩

theorem Begun.carryOut_eq [Platform] (h : Begun arguments tree options) (hstands : Stands tree) :
    carryOut options tree =
      match Exclude.rulesOfTree tree (rootOf options tree) options.exclude options.respectGitignore with
      | .error fault => rulesMissing tree fault
      | .ok rules => auditRoot options tree (rootOf options tree) rules := by
  have hroot := rootFault?_of_isDirectory h.directory
  cases hrules : Exclude.rulesOfTree tree (rootOf options tree) options.exclude options.respectGitignore with
  | error fault => simp only [carryOut, hstands.lacksRoot_eq, hroot, hrules, Bool.false_eq_true, if_false]
  | ok rules => simp only [carryOut, hstands.lacksRoot_eq, hroot, hrules, Bool.false_eq_true, if_false]

theorem rulesMissing_ending (tree : Tree) {fault : Exclude.RulesFault} (h : fault.IsUnreadable) :
    (rulesMissing tree fault).ending = .exit .usage := by
  cases fault with
  | unlisted fault =>
    cases fault with
    | tooDeep words => exact h.elim
    | refused cause written => rfl
    | nullCharacter => rfl
  | unreadable reason => rfl
  | badRule fault => exact h.elim

section
variable [Platform] (hstands : Stands tree)
include hstands

theorem Refused.ending (h : Refused arguments tree) : (run arguments tree).ending = .exit .usage := by
  cases h with
  | unasked hother =>
    rw [run]
    split
    · rfl
    · rfl
    · next options hread => exact absurd hread (hother options)
  | rootMissing hread hlooked hmissing =>
    rw [(run_audit tree hread).1, carryOut, hstands.lacksRoot_eq, Audit.rootFault?, hlooked]
    simp [hmissing, Command.rootMissing]
  | rulesUnreadable hbegun hasked hunreadable =>
    obtain ⟨fault, hfault, hkind⟩ := (Exclude.linesOfTree_unreadable_iff _).2 ⟨hasked, hunreadable⟩
    rw [(run_audit tree hbegun.read).1, hbegun.carryOut_eq hstands, Exclude.rulesOfTree_of_fault hfault]
    exact rulesMissing_ending tree hkind

theorem Breaks.ending (h : Breaks arguments tree) :
    ∃ breakdown, (run arguments tree).ending = .broken breakdown := by
  cases h with
  | @rootUnreachable options fault hread hfault =>
    refine ⟨.rootUnreachable fault, ?_⟩
    rw [(run_audit tree hread).1, carryOut, hstands.lacksRoot_eq, Audit.rootFault?, hfault]
    rfl
  | @searchTooDeep options words hbegun hasked hdeep =>
    refine ⟨.rulesTooDeep words, ?_⟩
    rw [(run_audit tree hbegun.read).1, hbegun.carryOut_eq hstands,
      Exclude.rulesOfTree_of_fault ((Exclude.linesOfTree_tooDeep_iff _).2 ⟨hasked, hdeep⟩)]
    rfl
  | badRule hbegun hlines hmem hbad =>
    obtain ⟨fault, hfault⟩ := Exclude.rulesOfLines_eq_error_iff.2 ⟨_, hmem, hbad⟩
    refine ⟨.badRule fault, ?_⟩
    rw [(run_audit tree hbegun.read).1, hbegun.carryOut_eq hstands, Exclude.rulesOfTree_of_lines hlines, hfault]
    rfl

theorem Fails.ending (h : Fails arguments tree) : (run arguments tree).ending = .exit .failure := by
  obtain ⟨options, rules, hbegun, hrules, hno⟩ := h
  have hending : (run arguments tree).ending = (auditRoot options tree (rootOf options tree) rules).ending := by
    rw [(run_audit tree hbegun.read).1, hbegun.carryOut_eq hstands, hrules]
  rcases auditRoot_ending options rules (rootFault?_of_isDirectory hbegun.directory)
    with hfailure | hsuccess
  · rw [hending, hfailure]
  · rcases run_cases arguments tree with ⟨others, audit, hplanned, hwrote⟩ | ⟨-, hstopped⟩
    · obtain rfl : others = options := by simpa [hplanned.read] using hbegun.read
      exact absurd (hwrote.2.1 (hending.trans hsuccess)) (hno _ _ hplanned)
    · exact absurd (hending.trans hsuccess) hstopped.2

end

theorem Succeeds.ending [Platform] (h : Succeeds arguments tree) :
    (run arguments tree).ending = .exit .success := by
  obtain ⟨options, audit, documents, hplanned, hwritten⟩ := h
  rw [← hplanned.plannedReports_eq] at hwritten
  rcases run_cases arguments tree with ⟨_, _, -, hwrote⟩ | ⟨hnil, -⟩
  · exact hwrote.2.2 hwritten
  · exact absurd (hplanned.plannedReports_eq.symm.trans hnil) hplanned.asked.ne_nil

theorem Begun.meets [Platform] (hbegun : Begun arguments tree options) :
    Refused arguments tree ∨ Breaks arguments tree ∨ Fails arguments tree ∨ Succeeds arguments tree := by
  by_cases hlines : ∃ lines,
      Exclude.linesOfTree tree (rootOf options tree) options.exclude options.respectGitignore = .ok lines
  · obtain ⟨lines, hlines⟩ := hlines
    cases hrules : Exclude.rulesOfLines lines with
    | error fault =>
      obtain ⟨line, hmem, hbad⟩ := Exclude.rulesOfLines_eq_error_iff.1 ⟨fault, hrules⟩
      exact Or.inr (Or.inl (.badRule hbegun hlines hmem hbad))
    | ok rules =>
      by_cases hsucceeds : Succeeds arguments tree
      · exact Or.inr (Or.inr (Or.inr hsucceeds))
      · refine Or.inr (Or.inr (Or.inl ⟨options, rules, hbegun, ?_, fun audit documents hplanned hwritten => ?_⟩))
        · rw [Exclude.rulesOfTree_of_lines hlines, hrules]
          rfl
        · exact hsucceeds ⟨options, audit, documents, hplanned, hwritten⟩
  · rw [Exclude.exists_linesOfTree_iff, not_not] at hlines
    obtain ⟨hasked, hunreadable | ⟨words, hdeep⟩⟩ := hlines
    · exact Or.inl (.rulesUnreadable hbegun hasked hunreadable)
    · exact Or.inr (Or.inl (.searchTooDeep hbegun hasked hdeep))

/-- A run meets one of these. -/
theorem meets [Platform] (arguments : List Text) (tree : Tree) :
    Refused arguments tree ∨ Breaks arguments tree ∨ Fails arguments tree ∨ Succeeds arguments tree := by
  by_cases hread : ∃ options, read arguments = .ok (.audit options)
  · obtain ⟨options, hread⟩ := hread
    cases hdirectory : tree.isDirectory (rootOf options tree) with
    | false =>
      cases hlook : tree.lookFault? (rootOf options tree) with
      | none => exact Or.inl (.rootMissing hread hlook hdirectory)
      | some fault => exact Or.inr (Or.inl (.rootUnreachable hread hlook))
    | true => exact Begun.meets ⟨hread, hdirectory⟩
  · exact Or.inl (.unasked fun options h => hread ⟨options, h⟩)

/-! ## Endings -/

theorem Stands.ending_cases [Platform] (hstands : Stands tree) (arguments : List Text) :
    (Refused arguments tree ∧ (run arguments tree).ending = .exit .usage) ∨
    (Breaks arguments tree ∧ ∃ breakdown, (run arguments tree).ending = .broken breakdown) ∨
    (Fails arguments tree ∧ (run arguments tree).ending = .exit .failure) ∨
    (Succeeds arguments tree ∧ (run arguments tree).ending = .exit .success) := by
  rcases meets arguments tree with hrefused | hbreaks | hfails | hsucceeds
  · exact Or.inl ⟨hrefused, hrefused.ending hstands⟩
  · exact Or.inr (Or.inl ⟨hbreaks, hbreaks.ending hstands⟩)
  · exact Or.inr (Or.inr (Or.inl ⟨hfails, hfails.ending hstands⟩))
  · exact Or.inr (Or.inr (Or.inr ⟨hsucceeds, hsucceeds.ending⟩))

theorem Stands.ending [Platform] (hstands : Stands tree) (arguments : List Text) :
    ((∃ code, (run arguments tree).ending = .exit code) ↔ ¬ Breaks arguments tree) ∧
    ((run arguments tree).ending = .exit .usage ↔ Refused arguments tree) ∧
    ((run arguments tree).ending = .exit .failure ↔ Fails arguments tree) ∧
    ((run arguments tree).ending = .exit .success ↔ Succeeds arguments tree) := by
  -- No two of the endings are the same, so each of them tells what the run has met.
  have hcases := hstands.ending_cases arguments
  refine ⟨⟨?_, fun hunbroken => ?_⟩, ⟨fun h => ?_, Refused.ending hstands⟩, ⟨fun h => ?_, Fails.ending hstands⟩,
    ⟨fun h => ?_, Succeeds.ending⟩⟩
  · rintro ⟨code, hcode⟩ hbreaks
    obtain ⟨breakdown, hbroken⟩ := hbreaks.ending hstands
    simp [hcode] at hbroken
  · rcases hcases with ⟨-, hcode⟩ | ⟨hbreaks, -⟩ | ⟨-, hcode⟩ | ⟨-, hcode⟩
    · exact ⟨_, hcode⟩
    · exact absurd hbreaks hunbroken
    · exact ⟨_, hcode⟩
    · exact ⟨_, hcode⟩
  · simpa [h] using hcases
  · simpa [h] using hcases
  · simpa [h] using hcases

theorem ending_of_not_stands [Platform] (hgone : ¬ Stands tree) (hread : read arguments = .ok (.audit options))
    (hpath : options.path = []) : (run arguments tree).ending = .broken .noWorkingDirectory := by
  have hlacks : lacksRoot options tree = true := by
    rw [Stands] at hgone
    simp [lacksRoot, hpath, hgone]
  rw [(run_audit tree hread).1, carryOut, hlacks]
  rfl

/-- **How a run ends.**  Where the working directory stands, it has an exit code exactly
    if it does not break, and which code it has is settled by what it meets.  Where the
    working directory is gone, a run that is given no other root breaks. -/
theorem run_ending [Platform] (arguments : List Text) (tree : Tree) :
    (Stands tree →
      ((∃ code, (run arguments tree).ending = .exit code) ↔ ¬ Breaks arguments tree) ∧
      ((run arguments tree).ending = .exit .usage ↔ Refused arguments tree) ∧
      ((run arguments tree).ending = .exit .failure ↔ Fails arguments tree) ∧
      ((run arguments tree).ending = .exit .success ↔ Succeeds arguments tree)) ∧
    (¬ Stands tree → ∀ options, read arguments = .ok (.audit options) → options.path = [] →
      (run arguments tree).ending = .broken .noWorkingDirectory) :=
  ⟨fun hstands => hstands.ending arguments, fun hgone _ hread hpath => ending_of_not_stands hgone hread hpath⟩

/-- A working directory with a page. -/
def onePage : Tree :=
  (Tree.emptyAt [['w']]).put [['w'], "a.razor".toList] (.file (Text.Utf8.encode "@page \"/\"".toList))

section
open scoped Platform.Usual

/-- A lone negation cannot be a rule, and breaks a run that would succeed without it. -/
theorem bad_pattern_breaks :
    (run [] onePage).ending = .exit .success ∧
      (run ["--exclude".toList, ['!']] onePage).ending = .broken (.badRule (.malformed ['!'])) := by
  decide +kernel

end

/-! ## Early ends -/

/-- The command has been refused or has broken. -/
def Outcome.Early (outcome : Outcome) : Prop :=
  outcome.ending = .exit .usage ∨ ∃ breakdown, outcome.ending = .broken breakdown

theorem carryOut_early [Platform] (h : (carryOut options tree).Early) :
    (carryOut options tree).tree = tree ∧ (carryOut options tree).Silent := by
  rcases carryOut_stage options tree with ⟨rules, -, hroot, -, hcarry⟩ | ⟨-, hstopped, hsilent⟩
  · -- From here on a run is either a success or a failure.
    rw [hcarry] at h
    rcases auditRoot_ending options rules hroot with hfailure | hsuccess
    · simp [Outcome.Early, hfailure] at h
    · simp [Outcome.Early, hsuccess] at h
  · exact ⟨hstopped.1, hsilent⟩

section
open scoped Platform.Usual

end

end SiteAudit.Command
