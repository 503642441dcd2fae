/-
  Which rule of a list decides.

  * `deciding?_eq`: the last rule that applies to the path itself decides, and the
    last one that applies because of a directory if there is none.
  * `excludes_append_iff`: what later rules make of a path that is excluded.
  * `ruleFiles_precedence`: the rules of rule files come after those given, so they
    take files away from the audit and bring some back: just those about which a
    negated rule of a rule file decides.
-/
import Mathlib.Data.List.Basic
import SiteAudit.Exclude.RuleFiles
import SiteAudit.Proofs.Success

namespace SiteAudit.Exclude

open Files

variable {tree : Tree} {root : Path} {given : List Text} {rules first later all : List Rule} {path : Text}

/-! ## Deciding -/

/-- The last rule that applies to a path with a weight. -/
def last? (weight : Weight) (rules : List Rule) (path : Text) : Option Rule :=
  rules.reverse.find? fun rule => rule.weight? path == some weight

theorem last?_append (weight : Weight) : last? weight (first ++ later) path =
    (last? weight later path).or (last? weight first path) := by
  rw [last?, List.reverse_append, List.find?_append]
  rfl

theorem last?_sound {weight : Weight} {rule : Rule} (h : last? weight rules path = some rule) :
    rule ∈ rules ∧ rule.weight? path = some weight :=
  ⟨List.mem_reverse.1 (List.mem_of_find?_eq_some h), by simpa using List.find?_some h⟩

/-- Rules further on count if none decides directly. -/
theorem decidingFrom_eq (path : Text) : ∀ (rules : List Rule) (soFar : Option Rule),
    decidingFrom path rules soFar = (rules.find? fun rule => rule.weight? path == some .direct).or
      (soFar.or (rules.find? fun rule => rule.weight? path == some .viaDirectory))
  | [], soFar => by simp [decidingFrom]
  | rule :: rules, soFar => by
    rw [decidingFrom]
    rcases hweight : rule.weight? path with _ | _ | _
    · simp [hweight, decidingFrom_eq path rules]
    · simp [hweight]
    · simp [hweight, decidingFrom_eq path rules]

/-- **A rule for the path itself comes before one for a directory**, and of rules
    of a kind the last one decides. -/
theorem deciding?_eq (rules : List Rule) (path : Text) :
    deciding? rules path = (last? .direct rules path).or (last? .viaDirectory rules path) := by
  rw [deciding?, decidingFrom_eq, Option.none_or]
  rfl

/-- Later rules bring a path back that earlier ones exclude: a negated one is the
    last that applies to the path itself, or the last that applies because of a
    directory, while none applies to the path itself. -/
def BringsBack (first later : List Rule) (path : Text) : Prop :=
  (∃ rule, last? .direct later path = some rule ∧ rule.negated = true) ∨
    last? .direct (first ++ later) path = none ∧
      ∃ rule, last? .viaDirectory later path = some rule ∧ rule.negated = true

theorem excludes_iff : excludes rules path = true ↔ withoutOuterSlashes path ≠ [] ∧
    ∃ rule, deciding? rules (ruledPath path) = some rule ∧ rule.negated = false := by
  simp [excludes, Option.any_eq_true]

/-- **An excluded path stays excluded unless later rules bring it back.** -/
theorem excludes_append_iff (h : excludes first path = true) :
    excludes (first ++ later) path = true ↔ ¬ BringsBack first later (ruledPath path) := by
  obtain ⟨hne, rule, hrule, hpositive⟩ := excludes_iff.1 h
  rw [excludes_iff, and_iff_right hne, BringsBack, deciding?_eq, last?_append, last?_append]
  rw [deciding?_eq] at hrule
  cases hlater : last? .direct later (ruledPath path) with
  | some direct => simp
  | none =>
    cases hfirst : last? .direct first (ruledPath path) with
    | some direct =>
      obtain rfl : direct = rule := by simpa [hfirst] using hrule
      simp [hpositive]
    | none =>
      have hdirectory : last? .viaDirectory first (ruledPath path) = some rule := by
        simpa [hfirst] using hrule
      cases last? .viaDirectory later (ruledPath path) with
      | some directory => simp
      | none => simp [hdirectory, hpositive]

theorem excludes_append_mono
    (hlater : ∀ rule ∈ later, rule.negated = true → rule.weight? (ruledPath path) = none)
    (h : excludes first path = true) : excludes (first ++ later) path = true := by
  rw [excludes_append_iff h]
  rintro (⟨rule, hrule, hnegated⟩ | ⟨-, rule, hrule, hnegated⟩)
  all_goals
    obtain ⟨hmem, hweight⟩ := last?_sound hrule
    rw [hlater rule hmem hnegated] at hweight
    cases hweight

/-! ## Rule files -/

theorem rulesOfLines_append_iff : ∀ (lines : List Text) {more : List Text} {rules : List Rule},
    rulesOfLines (lines ++ more) = .ok rules ↔
      ∃ first later, rulesOfLines lines = .ok first ∧ rulesOfLines more = .ok later ∧ rules = first ++ later
  | [], more, rules => by
    have hnil : rulesOfLines [] = .ok [] := rfl
    simp [hnil]
  | line :: lines, more, rules => by
    rw [List.cons_append, rulesOfLines, rulesOfLines]
    simp only [bind_eq_ok_iff, rulesOfLines_append_iff lines, Except.ok.injEq]
    constructor
    · rintro ⟨rule, hrule, _, ⟨first, later, hfirst, hlater, rfl⟩, rfl⟩
      exact ⟨_, later, ⟨rule, hrule, first, hfirst, rfl⟩, hlater, by simp⟩
    · rintro ⟨_, later, ⟨rule, hrule, first, hfirst, rfl⟩, hlater, rfl⟩
      exact ⟨rule, hrule, _, ⟨first, later, hfirst, hlater, rfl⟩, by simp⟩

/-- The rules given, those of the rule files, and all together. -/
structure Combined [Platform] (tree : Tree) (root : Path) (given : List Text) (first later all : List Rule) : Prop where
  given : rulesOfTree tree root given false = .ok first
  ruleFiles : ∃ lines, linesOfFiles tree root (ruleFiles tree root) = .ok lines ∧ rulesOfLines lines = .ok later
  /-- Rule files come after the rules given. -/
  all_eq : all = first ++ later

theorem combined_of_rulesOfTree [Platform] (h : rulesOfTree tree root given true = .ok all) :
    ∃ first later, Combined tree root given first later all := by
  obtain ⟨lines, hlines, hrules⟩ := bind_eq_ok_iff.1 h
  simp only [linesOfTree, if_true] at hlines
  split at hlines
  · cases hlines
  · obtain ⟨fileLines, hfileLines, rfl⟩ := map_eq_ok_iff.1 hlines
    obtain ⟨first, later, hfirst, hlater, hall⟩ := (rulesOfLines_append_iff _).1 (mapError_eq_ok_iff.1 hrules)
    exact ⟨first, later, mapError_eq_ok_iff.2 hfirst, ⟨fileLines, mapError_eq_ok_iff.1 hfileLines, hlater⟩, hall⟩

/-- **Rule files bring a path back that the rules given exclude exactly if a
    negated rule of theirs decides about it**, so never if none applies to it. -/
theorem ruleFiles_precedence [Platform] (h : rulesOfTree tree root given true = .ok all) :
    ∃ first later, Combined tree root given first later all ∧
      ∀ path, excludes first path = true →
        (excludes all path = true ↔ ¬ BringsBack first later (ruledPath path)) ∧
        ((∀ rule ∈ later, rule.negated = true → rule.weight? (ruledPath path) = none) →
          excludes all path = true) := by
  obtain ⟨first, later, hcombined⟩ := combined_of_rulesOfTree h
  refine ⟨first, later, hcombined, fun path hpath => ?_⟩
  rw [hcombined.all_eq]
  exact ⟨excludes_append_iff hpath, fun hlater => excludes_append_mono hlater hpath⟩

/-- A directory with a rule file that brings one page back. -/
def sparing : Tree :=
  (Tree.emptyAt [['w']]).put [['w'], ruleFileName] (.file (Text.Utf8.encode "!a.razor".toList))

section
open scoped Platform.Usual

/-- Of two pages that the rules given exclude, the one that the rule file names comes
    back, and the other one does not. -/
theorem ruleFiles_precedence_page : ∃ first later all,
    rulesOfTree sparing ⟨.relative, []⟩ ["*.razor".toList] true = .ok all ∧
      Combined sparing ⟨.relative, []⟩ ["*.razor".toList] first later all ∧
      excludes first "a.razor".toList = true ∧ BringsBack first later "a.razor".toList ∧
      excludes first "b.razor".toList = true ∧ excludes all "b.razor".toList = true := by
  have hgiven : (rulesOfTree sparing ⟨.relative, []⟩ ["*.razor".toList] false).map
      (fun rules => (excludes rules "a.razor".toList, excludes rules "b.razor".toList)) = .ok (true, true) := by
    decide +kernel
  have hall : (rulesOfTree sparing ⟨.relative, []⟩ ["*.razor".toList] true).map
      (fun rules => (excludes rules "a.razor".toList, excludes rules "b.razor".toList)) = .ok (false, true) := by
    decide +kernel
  obtain ⟨all, h, hverdicts⟩ := map_eq_ok_iff.1 hall
  obtain ⟨first, later, hcombined, hbringsBack⟩ := ruleFiles_precedence h
  obtain ⟨others, hothers, hfirst⟩ := map_eq_ok_iff.1 hgiven
  obtain rfl := Except.ok.inj (hothers.symm.trans hcombined.given)
  obtain ⟨ha, hb⟩ := Prod.mk.inj hfirst
  obtain ⟨hback, hgone⟩ := Prod.mk.inj hverdicts
  refine ⟨others, later, all, h, hcombined, ha, ?_, hb, hgone⟩
  by_contra hno
  have hstays : excludes all "a.razor".toList = true := (hbringsBack _ ha).1.2 hno
  exact Bool.false_ne_true (hback.symm.trans hstays)

/-- The rules given exclude the page; with the rule file it is back. -/
theorem ruleFile_brings_page_back :
    (rulesOfTree sparing ⟨.relative, []⟩ ["*.razor".toList] false).map (excludes · "a.razor".toList) = .ok true ∧
    (rulesOfTree sparing ⟨.relative, []⟩ ["*.razor".toList] true).map (excludes · "a.razor".toList) = .ok false := by
  decide +kernel

end

end SiteAudit.Exclude
