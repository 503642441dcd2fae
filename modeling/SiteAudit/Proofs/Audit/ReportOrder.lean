/-
  The order of the tables of an audit.

  * `Link.ReadInOrder`: the links of a source are those of its lines, one line after
    the other, and in a line the anchors before the calls, each from left to right.
  * `ofTree_tabled`: the tables hold the routes and the links that are found, none
    lost and none made up, in report order.  The links of a source stand together,
    as they were read, unless another source has the same file in capitals.
-/
import Mathlib.Data.List.Basic
import SiteAudit.Audit.OfTree
import SiteAudit.Proofs.Link.Numbering
import SiteAudit.Proofs.Order
import SiteAudit.Proofs.Success
import SiteAudit.Proofs.Text.Scan

namespace SiteAudit

open Text (finds upper)

/-! ## Ranks -/

instance : Std.TransCmp Route.reportOrder :=
  inferInstanceAs (Std.TransCmp (compareLex (compareOn fun route : Route => upper route.template)
    (compareOn fun route : Route => upper route.file)))

instance : Std.TransCmp Link.reportOrder :=
  inferInstanceAs (Std.TransCmp (compareLex (compareOn fun link : Link => upper link.file)
    (compareOn fun link : Link => link.line)))

namespace Link

variable {catalogue : Route.Catalogue} {file : Text} {number : Int} {lines : List Text}
  {source : Source} {link a b : Link}

theorem isLE_file (h : (reportOrder a b).isLE = true) : (compare (upper a.file) (upper b.file)).isLE = true := by
  rw [reportOrder] at h
  cases hfile : compare (upper a.file) (upper b.file) with
  | lt => rfl
  | eq => rfl
  | gt => simp [hfile] at h

theorem isLE_of_line (hfile : a.file = b.file) (hline : a.line ≤ b.line) : (reportOrder a b).isLE = true := by
  have heq : compare (upper b.file) (upper b.file) = .eq := Std.ReflCmp.compare_self
  rw [reportOrder, hfile, heq, Ordering.eq_then]
  exact Std.isLE_compare.2 hline

/-! ## Reading -/

/-- The form of an idiom. -/
def Idiom.form : Idiom → Text.Form Text
  | href => anchor
  | navigateTo => navigation

/-- The links of a source are read line by line, the first line being 1, and in a line
    the anchors and then the calls, each from left to right. -/
structure ReadInOrder (catalogue : Route.Catalogue) (source : Source) : Prop where
  ofSource_eq : ofSource catalogue source =
    ((Text.lines source.text).zipIdx 1).flatMap fun (line, number) =>
      [Idiom.href, .navigateTo].flatMap fun idiom =>
        (finds idiom.form line).map fun find =>
          ofDestination catalogue source.file number idiom find.value
  leftToRight : ∀ line (idiom : Idiom), (finds idiom.form line).Pairwise fun a b => a.stop ≤ b.start

theorem ofLine_eq (catalogue : Route.Catalogue) (file : Text) (number : Int) (line : Text) :
    ofLine catalogue file number line = [Idiom.href, .navigateTo].flatMap fun idiom =>
      (finds idiom.form line).map fun find => ofDestination catalogue file number idiom find.value := by
  simp [ofLine, Text.readings, Idiom.form, Function.comp_def]

theorem readInOrder (catalogue : Route.Catalogue) (source : Source) : ReadInOrder catalogue source where
  ofSource_eq := by
    have h := ofLinesFrom_eq catalogue source.file (Text.lines source.text) 1
    simp only [ofLine_eq] at h
    exact h
  leftToRight line idiom := Text.finds_leftToRight idiom.form line

/-- A link of lines names their file, and no line before them. -/
theorem file_and_line_of_mem {lines : List Text} {number : Int} (h : link ∈ ofLinesFrom catalogue file number lines) :
    link.file = file ∧ number ≤ link.line := by
  obtain ⟨i, line, -, h⟩ := mem_ofLinesFrom_iff.1 h
  obtain ⟨hfile, hline⟩ := file_and_line_of_mem_ofLine h
  exact ⟨hfile, by omega⟩

theorem ofLinesFrom_pairwise (catalogue : Route.Catalogue) (file : Text) : ∀ (lines : List Text) (number : Int),
    (ofLinesFrom catalogue file number lines).Pairwise fun a b => (reportOrder a b).isLE = true
  | [], _ => .nil
  | line :: lines, number => by
    refine List.pairwise_append.2 ⟨?_, ofLinesFrom_pairwise catalogue file lines (number + 1), ?_⟩
    · refine List.pairwise_of_forall_mem_list fun a ha b hb => ?_
      obtain ⟨hfile, hline⟩ := file_and_line_of_mem_ofLine ha
      obtain ⟨hfile', hline'⟩ := file_and_line_of_mem_ofLine hb
      exact isLE_of_line (hfile.trans hfile'.symm) (by omega)
    · intro a ha b hb
      obtain ⟨hfile, hline⟩ := file_and_line_of_mem_ofLine ha
      obtain ⟨hfile', hline'⟩ := file_and_line_of_mem hb
      exact isLE_of_line (hfile.trans hfile'.symm) (by omega)

/-! ## Links of one source -/

/-- The links of a source stand next to each other, as they were read, and no other
    link is of its file. -/
def StandTogether (links : List Link) (catalogue : Route.Catalogue) (source : Source) : Prop :=
  ∃ before after, links = before ++ ofSource catalogue source ++ after ∧
    ∀ link ∈ before ++ after, link.file ≠ source.file

/-- Of the links of sources those are picked by a file that only one source has in
    capitals which that source has. -/
theorem filter_ofSources (catalogue : Route.Catalogue) {earlier later : List Source}
    (hunique : ∀ other ∈ earlier ++ later, upper other.file ≠ upper source.file) :
    (ofSources catalogue (earlier ++ source :: later)).filter
        (fun link => compare (upper link.file) (upper source.file) == .eq) = ofSource catalogue source := by
  have hfile {other : Source} {link : Link} (h : link ∈ ofSource catalogue other) : link.file = other.file :=
    (file_and_line_of_mem h).1
  have hnone {others : List Source} (h : ∀ other ∈ others, upper other.file ≠ upper source.file) :
      (ofSources catalogue others).filter
        (fun link => compare (upper link.file) (upper source.file) == .eq) = [] := by
    refine List.filter_eq_nil_iff.2 fun link hlink => ?_
    obtain ⟨other, hother, hlink⟩ := List.mem_flatMap.1 hlink
    simpa [hfile hlink] using h other hother
  have hall : (ofSource catalogue source).filter
      (fun link => compare (upper link.file) (upper source.file) == .eq) = ofSource catalogue source :=
    List.filter_eq_self.2 fun link hlink => by simp [hfile hlink]
  have hearlier := hnone fun other hother => hunique other (List.mem_append_left _ hother)
  have hlater := hnone fun other hother => hunique other (List.mem_append_right _ hother)
  rw [ofSources] at hearlier hlater
  rw [ofSources, List.flatMap_append, List.flatMap_cons, List.filter_append, List.filter_append, hearlier, hall,
    hlater, List.nil_append, List.append_nil]

/-- **In the link table the links of a source stand together**, if no other source has
    its file in capitals. -/
theorem standTogether_inReportOrder {earlier later : List Source}
    (hunique : ∀ other ∈ earlier ++ later, upper other.file ≠ upper source.file) :
    StandTogether (inReportOrder (ofSources catalogue (earlier ++ source :: later))) catalogue source := by
  have hpicked := filter_ofSources catalogue hunique
  have hread : (ofSource catalogue source).Pairwise fun a b => (reportOrder a b).isLE = true :=
    ofLinesFrom_pairwise catalogue source.file (Text.lines source.text) 1
  have harranged : Arranged reportOrder _ (inReportOrder (ofSources catalogue (earlier ++ source :: later))) :=
    arranged_mergeSort _
  obtain ⟨before, after, hblock, hothers⟩ :=
    exists_block (upper source.file) (harranged.ascending.imp fun h => isLE_file h)
  -- The block has what is picked, in the order in which it was read.
  rw [inReportOrder, filter_mergeSort (hpicked.symm ▸ hread), hpicked] at hblock
  refine ⟨before, after, hblock, fun link hlink hfile => hothers link hlink ?_⟩
  rw [hfile]
  exact Std.ReflCmp.compare_self

end Link

/-! ## Audits -/

namespace Audit

open Files

variable {tree : Tree} {root : Path} {rules : List Exclude.Rule} {audit : Audit}

/-- The tables of an audit, beside the sources with routes and those with links. -/
structure Tabled (pages linked : List Source) (audit : Audit) : Prop where
  routes : Arranged Route.reportOrder (Route.ofSources pages) audit.routes
  links : Arranged Link.reportOrder
    (Link.ofSources (Route.Catalogue.ofRoutes (Route.ofSources pages)) linked) audit.links
  read : ∀ source ∈ linked, Link.ReadInOrder (Route.Catalogue.ofRoutes (Route.ofSources pages)) source
  /-- Links stay together where no other source has their file in capitals. -/
  together : ∀ earlier source later, linked = earlier ++ source :: later →
    (∀ other ∈ earlier ++ later, upper other.file ≠ upper source.file) →
    Link.StandTogether audit.links (Route.Catalogue.ofRoutes (Route.ofSources pages)) source

theorem ofSources_tabled (pages linked : List Source) : Tabled pages linked (ofSources pages linked) where
  routes := arranged_mergeSort _
  links := arranged_mergeSort _
  read source _ := Link.readInOrder _ source
  together earlier source later hlinked hunique := by
    subst hlinked
    exact Link.standTogether_inReportOrder hunique

/-- **The tables of an audit are what is found, in report order.** -/
theorem ofTree_tabled [Platform] (h : ofTree tree root rules = .ok audit) :
    ∃ pages linked, Source.ofTree .pages tree root Source.pageSuffixes rules = .ok pages ∧
      Source.ofTree .links tree root Source.linkSuffixes rules = .ok linked ∧ Tabled pages linked audit := by
  rw [ofTree] at h
  split at h
  · exact absurd h (by simp)
  · simp only [bind_eq_ok_iff, mapError_eq_ok_iff, Except.ok.injEq] at h
    obtain ⟨pages, hpages, linked, hlinked, rfl⟩ := h
    exact ⟨pages, linked, hpages, hlinked, ofSources_tabled pages linked⟩

/-- A page that has a call before an anchor in its first line, and an anchor in its
    second. -/
def twoIdioms : Source where
  file := "a.razor".toList
  text := "@page \"/\" NavigateTo(\"/call\") <a href=\"/\">\n<a href='/next'>".toList

/-- A working directory with the page. -/
def siteOfTwoIdioms : Tree :=
  (Tree.emptyAt [['w']]).put [['w'], twoIdioms.file] (.file (Text.Utf8.encode twoIdioms.text))

section
open scoped Platform.Usual

/-- Anchors come before calls, and lines one after the other. -/
theorem ofTree_tabled_twoIdioms : ∃ audit, ofTree siteOfTwoIdioms ⟨.relative, []⟩ [] = .ok audit ∧
    audit.links.map (·.destination) = [['/'], "/call".toList, "/next".toList] ∧
      ∃ pages linked, Source.ofTree .pages siteOfTwoIdioms ⟨.relative, []⟩ Source.pageSuffixes [] = .ok pages ∧
        Source.ofTree .links siteOfTwoIdioms ⟨.relative, []⟩ Source.linkSuffixes [] = .ok linked ∧
        Tabled pages linked audit := by
  have hroot : rootFault? siteOfTwoIdioms ⟨.relative, []⟩ = none := by decide +kernel
  have hpages : Source.ofTree .pages siteOfTwoIdioms ⟨.relative, []⟩ Source.pageSuffixes [] =
      .ok [twoIdioms] := by
    decide +kernel
  have hlinked : Source.ofTree .links siteOfTwoIdioms ⟨.relative, []⟩ Source.linkSuffixes [] =
      .ok [twoIdioms] := by
    decide +kernel
  have haudit : ofTree siteOfTwoIdioms ⟨.relative, []⟩ [] = .ok (ofSources [twoIdioms] [twoIdioms]) := by
    rw [ofTree, hroot, hpages, hlinked]
    rfl
  refine ⟨_, haudit, ?_, ofTree_tabled haudit⟩
  rw [ofSources, Link.inReportOrder, List.mergeSort_of_pairwise (by decide +kernel)]
  decide +kernel

end

end Audit

end SiteAudit
