/-
  Where the tables stand beside a report.

  * `Beside`: three paths in one directory, each with a name of its own.
  * `tablePaths_cases`: the tables stand beside the report, whatever its name, or have
    no place because it has none; `beside_of_tablePaths`.
-/
import SiteAudit.Report.Paths
import SiteAudit.Proofs.Files.Naming

namespace SiteAudit.Report

open Files

/-! ## Beside a report -/

/-- Three paths in one directory, each with a name of its own. -/
structure Beside (report routes links : Path) : Prop where
  named : ∀ path ∈ [report, routes, links], Path.isPart path.name = true
  together : ∀ path ∈ [report, routes, links], path.parent = report.parent
  apart : [report, routes, links].Nodup

variable {report table : Path} {c : Char} {tail : Text}

theorem table_beside (hc : c ≠ '.') (h : report.withName? (report.stem ++ c :: tail) = some table) :
    table.parent = report.parent ∧ table ≠ report ∧ Path.isPart table.name = true := by
  have hname := Path.name_of_withName? h
  refine ⟨Path.parent_of_withName? h, ?_, ?_⟩
  · rintro rfl
    exact Path.cutName_append_ne hc _ hname.symm
  · rw [hname, Path.isPart]
    cases report.stem <;> simp [hc]

/-- **The tables stand beside the report**, or the report has no name and the tables
    no place. -/
theorem tablePaths_cases (output : Text) :
    (Path.IsNameless output ∧ routesCsvPath? (.ofText output) = none ∧ linksCsvPath? (.ofText output) = none) ∨
    (¬ Path.IsNameless output ∧ ∃ routes links, routesCsvPath? (.ofText output) = some routes ∧
      linksCsvPath? (.ofText output) = some links ∧ Beside (.ofText output) routes links) := by
  rw [← Path.parts_ofText_eq_nil_iff]
  by_cases hparts : (Path.ofText output).parts = []
  · exact Or.inl ⟨hparts, Path.withName?_eq_none_iff.2 hparts, Path.withName?_eq_none_iff.2 hparts⟩
  · obtain ⟨routes, hroutes⟩ : ∃ routes, routesCsvPath? (.ofText output) = some routes :=
      ⟨_, Path.withName?_eq_some_iff.2 ⟨hparts, rfl⟩⟩
    obtain ⟨links, hlinks⟩ : ∃ links, linksCsvPath? (.ofText output) = some links :=
      ⟨_, Path.withName?_eq_some_iff.2 ⟨hparts, rfl⟩⟩
    obtain ⟨hroutesParent, hroutesNe, hroutesName⟩ := table_beside (by decide) hroutes
    obtain ⟨hlinksParent, hlinksNe, hlinksName⟩ := table_beside (by decide) hlinks
    have hne : routes ≠ links := by
      rintro rfl
      have hnames := (Path.name_of_withName? hroutes).symm.trans (Path.name_of_withName? hlinks)
      exact absurd (List.append_cancel_left hnames) (by decide)
    refine Or.inr ⟨hparts, routes, links, hroutes, hlinks, ?_, ?_, ?_⟩
    · simp [Path.isPart_name_ofText hparts, hroutesName, hlinksName]
    · simp [hroutesParent, hlinksParent]
    · simp [hroutesNe.symm, hlinksNe.symm, hne]

theorem beside_of_tablePaths {output : Text} {routes links : Path}
    (hroutes : routesCsvPath? (.ofText output) = some routes) (hlinks : linksCsvPath? (.ofText output) = some links) :
    Beside (.ofText output) routes links := by
  rcases tablePaths_cases output with ⟨-, hnone, -⟩ | ⟨-, _, _, hroutes', hlinks', hbeside⟩
  · simp [hroutes] at hnone
  · obtain rfl := Option.some.inj (hroutes.symm.trans hroutes')
    obtain rfl := Option.some.inj (hlinks.symm.trans hlinks')
    exact hbeside

end SiteAudit.Report
