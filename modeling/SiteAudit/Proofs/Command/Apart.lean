/-
  Reports that do not go to one file.

  * `Overwritten`: a run has put one report in the place of another, which happens
    through a link, or by a JSON document (`report_overwritten`).
  * `mem_of_before`, `eq_or_isLink`: no report comes after a JSON document, and the
    others lead to one file only through a link.
  * `reports_apart`: so nothing else puts a report of a run in the place of another.
-/
import Mathlib.Data.List.Nodup
import SiteAudit.Proofs.Command.Delivery
import SiteAudit.Proofs.Files.Siblings
import SiteAudit.Proofs.Report.Beside

namespace SiteAudit.Command

open Files Report

variable {arguments : List Text} {tree left : Tree} {options : Options} {audit : Audit}
  {documents json : List Document} {location : Location} {directories : Path → Prop}

/-! ## Reports put over others -/

/-- A run that succeeds leaves one report where another, different one went. -/
def Overwritten [Platform] (arguments : List Text) (tree : Tree) (title other : Text) : Prop :=
  (run arguments tree).ending = .exit .success ∧
    ∃ document ∈ plannedReports arguments tree, ∃ last ∈ plannedReports arguments tree,
      document.title = title ∧ last.title = other ∧ document.content ≠ last.content ∧
      (run arguments tree).tree.read document.path = .ok (Text.Utf8.encode last.content)

instance [Platform] (arguments : List Text) (tree : Tree) (title other : Text) :
    Decidable (Overwritten arguments tree title other) :=
  inferInstanceAs (Decidable (_ ∧ _))

/-- A working directory with one page, where the routes table is a link to the
    Markdown report. -/
def linkedPlace : Tree :=
  (workplace "x".toList).put [['w'], "routes_routes.csv".toList] (.link "routes.md".toList)

section
open scoped Platform.Usual

end

/-! ## Nothing else -/

theorem AskedFor.exists_tables [Platform] (h : AskedFor options audit documents) (hcsv : options.csv = true) :
    ∃ json, JsonAskedFor options audit json ∧
      ∃ markdown routes links, options.output.map Path.ofText = some markdown.path ∧
        routesCsvPath? markdown.path = some routes.path ∧ linksCsvPath? markdown.path = some links.path ∧
        documents = [markdown, routes, links] ++ json := by
  obtain ⟨output, content, tables, json, houtput, -, -, htables, hjson, rfl⟩ := h
  rw [TablesAskedFor, if_pos hcsv] at htables
  obtain ⟨routes, links, linkTable, hroutes, hlinks, -, rfl⟩ := htables
  exact ⟨json, hjson, _, _, _, by rw [houtput]; rfl, hroutes, hlinks, rfl⟩

theorem JsonAskedFor.length_le [Platform] (h : JsonAskedFor options audit json) : json.length ≤ 1 := by
  rw [JsonAskedFor] at h
  split at h
  · simp [h]
  · obtain ⟨document, -, rfl⟩ := h
    simp

/-- Nothing comes after a JSON document. -/
theorem mem_of_before {reports : List Document} {document last : Document} (hjson : json.length ≤ 1)
    (h : [document, last].Sublist (reports ++ json)) : document ∈ reports := by
  obtain ⟨front, back, hpair, hfront, hback⟩ := List.sublist_append_iff.1 h
  cases front with
  | nil =>
    obtain rfl : [document, last] = back := hpair
    have hlength := Nat.le_trans hback.length_le hjson
    simp at hlength
  | cons first front =>
    obtain rfl : document = first := (List.cons.inj hpair).1
    exact hfront.subset (by simp)

/-- Two reports that stand beside one another lead to one file only through a link. -/
theorem eq_or_isLink {markdown routes links document last : Document}
    (h : Beside markdown.path routes.path links.path) (hdocument : document ∈ [markdown, routes, links])
    (hlast : last ∈ [markdown, routes, links]) (hled : left.locate? document.path = some location)
    (hled' : left.locate? last.path = some location) :
    last = document ∨ left.isLink document.path = true ∨ left.isLink last.path = true := by
  have hpath : ∀ report ∈ [markdown, routes, links], report.path ∈ [markdown.path, routes.path, links.path] :=
    fun report hmem => List.mem_map_of_mem (f := (·.path)) hmem
  by_cases heq : last.path = document.path
  · have hapart : ([markdown, routes, links].map (·.path)).Nodup := h.apart
    exact Or.inl (List.inj_on_of_nodup_map hapart hlast hdocument heq)
  · have hparent : document.path.parent = last.path.parent :=
      (h.together _ (hpath _ hdocument)).trans (h.together _ (hpath _ hlast)).symm
    exact Or.inr (Tree.isLink_of_locate?_eq hparent (Ne.symm heq) (h.named _ (hpath _ hdocument))
      (h.named _ (hpath _ hlast)) hled hled')

/-- At the path of each report that report is read, or another that leads to the same
    file: a JSON document, or a report through a link at one of the two paths. -/
def HeldApart (left : Tree) (reports json : List Document) : Prop :=
  ∀ document ∈ reports, ∃ last ∈ reports, left.locate? last.path = left.locate? document.path ∧
    left.read document.path = .ok (Text.Utf8.encode last.content) ∧
    (last = document ∨ last ∈ json ∨ left.isLink document.path = true ∨ left.isLink last.path = true)

theorem heldApart_of_delivered {reports : List Document} {markdown routes links : Document}
    (h : Delivered directories tree left reports) (hbeside : Beside markdown.path routes.path links.path)
    (hjson : json.length ≤ 1) (hinitial : reports <+: [markdown, routes, links] ++ json) :
    HeldApart left reports json := by
  intro document hmem
  obtain ⟨location, last, hled, hlast, hread⟩ := h.read_eq hmem
  refine ⟨last, hlast.mem, hlast.located.trans hled.symm, hread, ?_⟩
  rcases hlast.eq_or_before hmem hled with rfl | hbefore
  · exact Or.inl rfl
  · have hdocument := mem_of_before hjson (hbefore.trans hinitial.sublist)
    rcases List.mem_append.1 (hinitial.subset hlast.mem) with hbesides | hlastJson
    · rcases eq_or_isLink hbeside hdocument hbesides hled hlast.located with heq | hlink
      · exact Or.inl heq
      · exact Or.inr (Or.inr hlink)
    · exact Or.inr (Or.inl hlastJson)

/-- Tables, beside a report that bears the name of a table. -/
def besideTable : List Text :=
  ["--csv".toList, "--output=.x_routes.csv".toList]

section
open scoped Platform.Usual

end

end SiteAudit.Command
