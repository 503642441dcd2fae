/-
  Two sites with the same rule files.

  * `SameRuleFiles`: everything named like a rule file is the same below both roots.
  * `ruleFiles_eq`, `rulesOfTree_eq`: then the rule files are, and if both sites can
    be listed, the rules are.
  * `listingFault?_eq_none_iff`: when a site can be listed in the search of rule
    files.
-/
import SiteAudit.Exclude.RuleFiles
import SiteAudit.Proofs.Files.Below
import SiteAudit.Proofs.Success

namespace SiteAudit.Exclude

open Files

variable {tree tree₁ tree₂ : Tree} {root : Path} {location : Location} {names : List Text} {node : Node}
  {given : List Text} {withRuleFiles : Bool}

/-! ## Listing in the search of rule files -/

/-- The path of a directory, and that of a rule file in it, can be looked at, and the
    directory is not nested too deep. -/
structure IsSearchable [Platform] (root : Path) (names : List Text) : Prop where
  short : exceeds maxPathBytes (root.below names).text = false
  shortName : exceeds maxPathBytes (root.below (names ++ [ruleFileName])).text = false
  shallow : names.length ≤ Platform.maxDepth .rules

theorem isEntryName_ruleFileName : Tree.IsEntryName ruleFileName := by
  decide

theorem openingFault?_eq_none_iff (site : tree.Site root location)
    (hdir : tree.node? (location ++ names) = some .directory) :
    tree.openingFault? (some ruleFileName) (root.below names) = none ↔
      exceeds maxPathBytes (root.below names).text = false ∧
        exceeds maxPathBytes (root.below (names ++ [ruleFileName])).text = false := by
  have hbelow : (root.below names).below [ruleFileName] = root.below (names ++ [ruleFileName]) := by
    simp [Path.below]
  rw [Tree.openingFault?, Option.bind_some, Option.or_eq_none_iff, hbelow, site.lookFault?_eq_none_iff hdir,
    site.lookFault?_name_eq_none_iff hdir isEntryName_ruleFileName, and_comm]

/-- **A site can be listed exactly if all its directories can be searched.** -/
theorem listingFault?_eq_none_iff [Platform] (site : tree.Site root location) :
    tree.listingFault? .rules (some ruleFileName) root = none ↔
      ∀ names, tree.node? (location ++ names) = some .directory → IsSearchable root names := by
  rw [site.listingFault?_eq_none_iff]
  refine forall_congr' fun names => forall_congr' fun hdir => ?_
  rw [openingFault?_eq_none_iff site hdir]
  constructor
  · rintro ⟨⟨hshort, hname⟩, hshallow⟩
    exact ⟨hshort, hname, hshallow⟩
  · rintro ⟨hshort, hname, hshallow⟩
    exact ⟨⟨hshort, hname⟩, hshallow⟩

/-! ## The same rule files -/

/-- What is named like a rule file is the same below both locations. -/
def SameRuleFiles (tree₁ tree₂ : Tree) (location : Location) : Prop :=
  ∀ front, tree₂.node? (location ++ (front ++ [ruleFileName])) = tree₁.node? (location ++ (front ++ [ruleFileName]))

theorem SameRuleFiles.symm (h : SameRuleFiles tree₁ tree₂ location) : SameRuleFiles tree₂ tree₁ location :=
  fun front => (h front).symm

theorem SameRuleFiles.node?_eq (h : SameRuleFiles tree₁ tree₂ location) (hne : names ≠ [])
    (hname : (root.below names).name = ruleFileName) :
    tree₂.node? (location ++ names) = tree₁.node? (location ++ names) := by
  have hlast : (root.below names).name = names.getLast hne := by
    simp [Path.name, Path.below, List.getLast?_eq_some_getLast hne]
  have hfront : names = names.dropLast ++ [ruleFileName] := by
    rw [← hname, hlast, List.dropLast_concat_getLast hne]
  rw [hfront]
  exact h names.dropLast

/-- The names of the rule files below a root. -/
def ruleNames (tree : Tree) (root : Path) (location : Location) : List (List Text) :=
  (tree.namesBelow location).filter fun names =>
    (root.below names).name == ruleFileName && (tree.entry? (root.below names)).isSome

theorem ruleFiles_eq_map (site : tree.Site root location) :
    ruleFiles tree root = (ruleNames tree root location).map root.below := by
  rw [ruleFiles, ruleNames, Tree.pathsBelow, site.root, List.filter_map]
  rfl

theorem mem_ruleNames_iff : names ∈ ruleNames tree root location ↔
    names ≠ [] ∧ (∃ node, tree.node? (location ++ names) = some node) ∧ (root.below names).name = ruleFileName ∧
      (tree.entry? (root.below names)).isSome := by
  simp only [ruleNames, List.mem_filter, Tree.mem_namesBelow_iff, Bool.and_eq_true, beq_iff_eq, and_assoc]

section
variable (site₁ : tree₁.Site root location) (site₂ : tree₂.Site root location)
include site₁ site₂

/-- A path leads to the same entry in both trees, or to none for the same reason. -/
theorem reach_below_eq (hnode₁ : tree₁.node? (location ++ names) = some node)
    (hnode₂ : tree₂.node? (location ++ names) = some node) :
    tree₂.reach (root.below names) .look = tree₁.reach (root.below names) .look := by
  by_cases hfits : exceeds maxPathBytes (root.below names).text = false
  · rw [site₁.reach_below hnode₁ hfits, site₂.reach_below hnode₂ hfits]
  · simp only [Bool.not_eq_false] at hfits
    simp [Tree.reach, Tree.reachAs, site₁.null_notMem hnode₁, hfits]

variable (hsame : SameRuleFiles tree₁ tree₂ location)
include hsame

theorem reach_ruleFile_eq (h : names ∈ ruleNames tree₁ root location) :
    tree₂.reach (root.below names) .look = tree₁.reach (root.below names) .look := by
  obtain ⟨hne, ⟨node, hnode⟩, hname, -⟩ := mem_ruleNames_iff.1 h
  exact reach_below_eq site₁ site₂ hnode ((hsame.node?_eq hne hname).trans hnode)

theorem ruleNames_subset (h : names ∈ ruleNames tree₁ root location) : names ∈ ruleNames tree₂ root location := by
  have hreach := reach_ruleFile_eq site₁ site₂ hsame h
  obtain ⟨hne, ⟨node, hnode⟩, hname, hsome⟩ := mem_ruleNames_iff.1 h
  refine mem_ruleNames_iff.2 ⟨hne, ⟨node, (hsame.node?_eq hne hname).trans hnode⟩, hname, ?_⟩
  rwa [Tree.entry?, hreach]

/-- **The rule files are the same.** -/
theorem ruleFiles_eq : ruleFiles tree₂ root = ruleFiles tree₁ root := by
  rw [ruleFiles_eq_map site₁, ruleFiles_eq_map site₂]
  have hordered (tree : Tree) : (ruleNames tree root location).Pairwise fun a b => compare (id a) (id b) = .lt :=
    (Tree.namesBelow_pairwise tree location).filter _
  refine congrArg (List.map root.below) (Tree.eq_of_mem_iff (hordered tree₂) (hordered tree₁) fun names => ?_)
  exact ⟨ruleNames_subset site₂ site₁ hsame.symm, ruleNames_subset site₁ site₂ hsame⟩

theorem linesOfFile_eq {path : Path} (h : path ∈ ruleFiles tree₁ root) :
    linesOfFile tree₂ root path = linesOfFile tree₁ root path := by
  rw [ruleFiles_eq_map site₁] at h
  obtain ⟨names, hmem, rfl⟩ := List.mem_map.1 h
  rw [linesOfFile, linesOfFile, Tree.read, Tree.read, reach_ruleFile_eq site₁ site₂ hsame hmem]

theorem linesOfFiles_eq {paths : List Path} (hpaths : paths ⊆ ruleFiles tree₁ root) :
    linesOfFiles tree₂ root paths = linesOfFiles tree₁ root paths := by
  induction paths with
  | nil => rfl
  | cons path paths ih =>
    rw [linesOfFiles, linesOfFiles, linesOfFile_eq site₁ site₂ hsame (hpaths (by simp)),
      ih fun other hother => hpaths (by simp [hother])]

variable [Platform] (hlisted : withRuleFiles = true →
  tree₂.listingFault? .rules (some ruleFileName) root = tree₁.listingFault? .rules (some ruleFileName) root)
include hlisted

/-- **The lines are the same**, as far as both trees can be listed. -/
theorem linesOfTree_eq :
    linesOfTree tree₂ root given withRuleFiles = linesOfTree tree₁ root given withRuleFiles := by
  rw [linesOfTree, linesOfTree]
  cases withRuleFiles with
  | false => rfl
  | true =>
    rw [if_pos rfl, if_pos rfl, hlisted rfl, ruleFiles_eq site₁ site₂ hsame,
      linesOfFiles_eq site₁ site₂ hsame (List.Subset.refl _)]

/-- **So are the rules.** -/
theorem rulesOfTree_eq :
    rulesOfTree tree₂ root given withRuleFiles = rulesOfTree tree₁ root given withRuleFiles := by
  rw [rulesOfTree, rulesOfTree, linesOfTree_eq site₁ site₂ hsame hlisted]

end

theorem listingFault?_of_rulesOfTree [Platform] {rules : List Rule}
    (h : rulesOfTree tree root given true = .ok rules) :
    tree.listingFault? .rules (some ruleFileName) root = none := by
  obtain ⟨lines, hlines, -⟩ := bind_eq_ok_iff.1 h
  rw [linesOfTree, if_pos rfl] at hlines
  cases hlisted : tree.listingFault? .rules (some ruleFileName) root with
  | none => rfl
  | some fault => simp [hlisted] at hlines

end SiteAudit.Exclude
