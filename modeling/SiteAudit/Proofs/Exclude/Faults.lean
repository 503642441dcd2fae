/-
  When there are no rules.

  * `RuleFilesUnreadable`: some directory cannot be looked into, or something named
    like a rule file is no file with a text, wherever among the rule files it stands.
    `SearchTooDeep`: the search comes upon a directory that is nested too deep.
  * `linesOfTree_eq_error_iff`: the fault of reading the lines is that of the search or
    of a rule file.  Which of the two cases above it is shows in it
    (`linesOfTree_unreadable_iff`, `linesOfTree_tooDeep_iff`), and there are lines in
    neither (`exists_linesOfTree_iff`).
  * `rulesOfLines_eq_error_iff`: lines give no rules exactly if one of them cannot be
    a rule.
-/
import Mathlib.Data.List.Basic
import SiteAudit.Exclude.RuleFiles
import SiteAudit.Proofs.Success

namespace SiteAudit.Exclude

open Files

variable {tree : Tree} {root path : Path} {given : List Text} {withRuleFiles : Bool}

/-! ## Rule files -/

/-- The path leads to a file whose content is a text. -/
def HasText (tree : Tree) (path : Path) : Prop :=
  ∃ bytes text, tree.entry? path = some (.file bytes) ∧ Text.Utf8.decode bytes = .ok text

/-- The rule files below a root cannot be read: some directory cannot be looked into,
    or one of the entries that are named like a rule file has no text. -/
def RuleFilesUnreadable [Platform] (tree : Tree) (root : Path) : Prop :=
  (∃ fault, tree.listingFault? .rules (some ruleFileName) root = some fault ∧
    ∀ words, fault ≠ .tooDeep words) ∨
  (tree.listingFault? .rules (some ruleFileName) root = none ∧ ∃ path ∈ ruleFiles tree root, ¬ HasText tree path)

/-- The search for rule files comes upon a directory that is nested too deep. -/
def SearchTooDeep [Platform] (tree : Tree) (root : Path) (words : Text) : Prop :=
  tree.listingFault? .rules (some ruleFileName) root = some (.tooDeep words)

theorem read_eq_ok_iff {bytes : Text.Utf8.Bytes} :
    tree.read path = .ok bytes ↔ tree.entry? path = some (.file bytes) := by
  rw [Tree.read, Tree.entry?]
  split <;> simp_all

theorem exists_linesOfFile_iff (root : Path) : (∃ lines, linesOfFile tree root path = .ok lines) ↔ HasText tree path := by
  simp only [HasText, ← read_eq_ok_iff, linesOfFile]
  cases tree.read path with
  | error fault => simp
  | ok bytes => cases hdecode : Text.Utf8.decode bytes <;> simp [hdecode]

theorem exists_linesOfFiles_iff : ∀ {paths : List Path},
    (∃ lines, linesOfFiles tree root paths = .ok lines) ↔ ∀ path ∈ paths, HasText tree path
  | [] => by simp [linesOfFiles]
  | path :: paths => by
    rw [List.forall_mem_cons, ← exists_linesOfFile_iff root, ← exists_linesOfFiles_iff]
    simp only [linesOfFiles, bind_eq_ok_iff, Except.ok.injEq]
    constructor
    · rintro ⟨_, first, hfirst, others, hothers, -⟩
      exact ⟨⟨first, hfirst⟩, others, hothers⟩
    · rintro ⟨⟨first, hfirst⟩, others, hothers⟩
      exact ⟨_, first, hfirst, others, hothers, rfl⟩

theorem linesOfFiles_eq_error_iff (root : Path) {paths : List Path} :
    (∃ reason, linesOfFiles tree root paths = .error reason) ↔ ∃ path ∈ paths, ¬ HasText tree path := by
  have hlines : (∃ lines, linesOfFiles tree root paths = .ok lines) ↔ ∀ path ∈ paths, HasText tree path :=
    exists_linesOfFiles_iff
  cases hread : linesOfFiles tree root paths with
  | error reason => simpa [hread] using hlines
  | ok lines => simpa [hread] using hlines

/-- The fault says that rule files cannot be read. -/
def RulesFault.IsUnreadable : RulesFault → Prop
  | .unlisted (.tooDeep _) | .badRule _ => False
  | .unlisted (.refused _ _) | .unlisted .nullCharacter | .unreadable _ => True

section
variable [Platform]

/-- There are no lines if rule files are asked for and either the search for them or
    the reading of one of them fails. -/
theorem linesOfTree_eq_error_iff {fault : RulesFault} :
    linesOfTree tree root given withRuleFiles = .error fault ↔ withRuleFiles = true ∧
      ((∃ unlisted, tree.listingFault? .rules (some ruleFileName) root = some unlisted ∧ .unlisted unlisted = fault) ∨
        (tree.listingFault? .rules (some ruleFileName) root = none ∧
          ∃ reason, linesOfFiles tree root (ruleFiles tree root) = .error reason ∧ .unreadable reason = fault)) := by
  rw [linesOfTree]
  cases withRuleFiles with
  | false => simp
  | true =>
    rw [if_pos rfl]
    cases tree.listingFault? .rules (some ruleFileName) root with
    | some unlisted => simp
    | none => cases linesOfFiles tree root (ruleFiles tree root) <;> simp [Except.mapError, Except.map]

/-- **Rule files that cannot be read show as such.** -/
theorem linesOfTree_unreadable_iff (given : List Text) :
    (∃ fault, linesOfTree tree root given withRuleFiles = .error fault ∧ fault.IsUnreadable) ↔
      withRuleFiles = true ∧ RuleFilesUnreadable tree root := by
  simp only [linesOfTree_eq_error_iff, RuleFilesUnreadable, ← linesOfFiles_eq_error_iff root]
  constructor
  · rintro ⟨_, ⟨hasked, ⟨unlisted, hunlisted, rfl⟩ | ⟨hlisted, reason, hreason, rfl⟩⟩, hkind⟩
    · refine ⟨hasked, Or.inl ⟨unlisted, hunlisted, ?_⟩⟩
      rintro words rfl
      exact hkind
    · exact ⟨hasked, Or.inr ⟨hlisted, reason, hreason⟩⟩
  · rintro ⟨hasked, ⟨unlisted, hunlisted, hkind⟩ | ⟨hlisted, reason, hreason⟩⟩
    · refine ⟨_, ⟨hasked, Or.inl ⟨unlisted, hunlisted, rfl⟩⟩, ?_⟩
      cases unlisted with
      | tooDeep words => exact hkind words rfl
      | refused cause written => trivial
      | nullCharacter => trivial
    · exact ⟨_, ⟨hasked, Or.inr ⟨hlisted, reason, hreason, rfl⟩⟩, trivial⟩

/-- **A search that goes too deep shows as such.** -/
theorem linesOfTree_tooDeep_iff (given : List Text) {words : Text} :
    linesOfTree tree root given withRuleFiles = .error (.unlisted (.tooDeep words)) ↔
      withRuleFiles = true ∧ SearchTooDeep tree root words := by
  simp [linesOfTree_eq_error_iff, SearchTooDeep]

theorem exists_linesOfTree_iff (given : List Text) :
    (∃ lines, linesOfTree tree root given withRuleFiles = .ok lines) ↔
      ¬ (withRuleFiles = true ∧ (RuleFilesUnreadable tree root ∨ ∃ words, SearchTooDeep tree root words)) := by
  rw [and_or_left, ← exists_and_left, ← linesOfTree_unreadable_iff given]
  simp only [← linesOfTree_tooDeep_iff given]
  cases hlines : linesOfTree tree root given withRuleFiles with
  | ok lines => simp
  | error fault =>
    -- Lines are no rules yet, so none of them has been found to be bad.
    obtain ⟨-, ⟨unlisted, -, rfl⟩ | ⟨-, reason, -, rfl⟩⟩ := linesOfTree_eq_error_iff.1 hlines
    · cases unlisted <;> simp [RulesFault.IsUnreadable]
    · simp [RulesFault.IsUnreadable]

end

/-! ## Rules -/

/-- The line cannot be a rule. -/
def IsBadRule (line : Text) : Prop :=
  ∃ fault, Rule.ofLine line = .error fault

/-- **Lines give no rules exactly if one of them cannot be a rule.** -/
theorem rulesOfLines_eq_error_iff : ∀ {lines : List Text},
    (∃ fault, rulesOfLines lines = .error fault) ↔ ∃ line ∈ lines, IsBadRule line
  | [] => by simp [rulesOfLines]
  | line :: lines => by
    rw [List.exists_mem_cons_iff, ← rulesOfLines_eq_error_iff, IsBadRule, rulesOfLines]
    cases Rule.ofLine line with
    | error fault => simp [bind, Except.bind]
    | ok rule => cases rulesOfLines lines <;> simp [bind, Except.bind]

theorem rulesOfTree_of_lines [Platform] {lines : List Text}
    (h : linesOfTree tree root given withRuleFiles = .ok lines) :
    rulesOfTree tree root given withRuleFiles = (rulesOfLines lines).mapError .badRule := by
  rw [rulesOfTree, h]
  rfl

theorem rulesOfTree_of_fault [Platform] {fault : RulesFault}
    (h : linesOfTree tree root given withRuleFiles = .error fault) :
    rulesOfTree tree root given withRuleFiles = .error fault := by
  rw [rulesOfTree, h]
  rfl

end SiteAudit.Exclude
