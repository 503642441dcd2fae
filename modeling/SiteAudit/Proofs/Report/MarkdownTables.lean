/-
  The two tables of the Markdown report.

  A bar that no backslash precedes is bare: it ends a cell.  A line feed ends a line.

  * `WellFormed`: the lines of a report are its headings and two tables, with a line
    for every record and in every line a bare bar before each cell and after the last.
  * `isRow_row_iff`: a line has its form exactly if every cell is plain.
  * `wellFormed_iff_plainCells`: a report has its form exactly if every cell is.
  * `render_wellFormed_iff`: so has the report of a tree.  Destinations never do harm.
    A bare bar in a template, a role, a file name or a scheme does, and so does a line
    feed in the first three.
  * `bars_and_feeds_break_tables`: a page can have them.
-/
import Mathlib.Tactic.MkIffOfInductiveProp
import SiteAudit.Audit.OfTree
import SiteAudit.Proofs.Link.Occurrence
import SiteAudit.Proofs.Success
import SiteAudit.Proofs.Text.Lines
import SiteAudit.Report.Markdown

namespace SiteAudit.Report.Markdown

open Files

variable {audit : Audit} {raw file cell : Text} {cells : List Text} {number : Int} {idiom : Link.Idiom}
  {catalogue : Route.Catalogue} {tree : Tree} {root : Path} {rules : List Exclude.Rule}

/-! ## Bare bars -/

/-- The number of bars without a backslash before them, in a text that stands after a
    given character. -/
def bareBarsFrom (before : Char) : Text → Nat
  | [] => 0
  | c :: s => (if c = '|' ∧ before ≠ '\\' then 1 else 0) + bareBarsFrom c s

/-- The number of bare bars in a text that stands after a blank. -/
def bareBars (s : Text) : Nat :=
  bareBarsFrom ' ' s

theorem bareBarsFrom_append (before : Char) (s t : Text) :
    bareBarsFrom before (s ++ t) = bareBarsFrom before s + bareBarsFrom (s.getLast?.getD before) t := by
  induction s generalizing before with
  | nil => simp [bareBarsFrom]
  | cons c s ih => simp [bareBarsFrom, ih, List.getLast?_cons, Nat.add_assoc]

theorem bareBarsFrom_append_blank (before : Char) (s t : Text) :
    bareBarsFrom before (s ++ ' ' :: t) = bareBarsFrom before s + bareBars t := by
  simp [bareBarsFrom_append, bareBarsFrom, bareBars]

theorem bareBarsFrom_eq_zero {s : Text} (h : '|' ∉ s) (before : Char) : bareBarsFrom before s = 0 := by
  induction s generalizing before with
  | nil => rfl
  | cons c s ih =>
    obtain ⟨hc, hs⟩ : '|' ≠ c ∧ '|' ∉ s := by simpa using h
    simp [bareBarsFrom, ih hs, Ne.symm hc]

@[simp] theorem bareBarsFrom_escapeBars (before : Char) (s : Text) : bareBarsFrom before (escapeBars s) = 0 := by
  induction s generalizing before with
  | nil => rfl
  | cons c s ih =>
    simp only [escapeBars, Text.replaceChar] at ih
    rw [escapeBars, Text.replaceChar, List.flatMap_cons, bareBarsFrom_append, ih]
    split
    · simp [bareBarsFrom]
    · next hc => simp [bareBarsFrom, hc]

theorem lineFeed_mem_escapeBars_iff {s : Text} : '\n' ∈ escapeBars s ↔ '\n' ∈ s := by
  rw [escapeBars, Text.replaceChar, List.mem_flatMap]
  constructor
  · rintro ⟨c, hc, hfeed⟩
    split at hfeed
    · simp at hfeed
    · rwa [List.mem_singleton.1 hfeed]
  · intro hfeed
    exact ⟨'\n', hfeed, by simp⟩

/-! ## Rows -/

/-- The text neither ends a cell nor a line. -/
def IsPlain (s : Text) : Prop :=
  '\n' ∉ s ∧ bareBars s = 0

instance (s : Text) : Decidable (IsPlain s) :=
  inferInstanceAs (Decidable (_ ∧ _))

theorem isPlain_of_notMem (hfeed : '\n' ∉ cell) (hbar : '|' ∉ cell) : IsPlain cell :=
  ⟨hfeed, bareBarsFrom_eq_zero hbar ' '⟩

/-- One line with a bare bar before each of its cells and after the last. -/
def IsRow (columns : Nat) (line : Text) : Prop :=
  '\n' ∉ line ∧ bareBars line = columns + 1

theorem bareBars_bar_blank (s : Text) : bareBars ('|' :: ' ' :: s) = 1 + bareBars s := by
  simp [bareBars, bareBarsFrom]

-- The bound goes with the equivalence: no cell makes up for a bar of another.
theorem bareBars_cells_eq_iff : ∀ {cells : List Text}, cells ≠ [] →
    cells.length ≤ bareBars (Text.joinWith [' ', '|', ' '] cells ++ [' ', '|']) ∧
      (bareBars (Text.joinWith [' ', '|', ' '] cells ++ [' ', '|']) = cells.length ↔
        ∀ cell ∈ cells, bareBars cell = 0)
  | [], hne => absurd rfl hne
  | [cell], _ => by
    have hbars : bareBars (cell ++ [' ', '|']) = bareBars cell + 1 := bareBarsFrom_append_blank ' ' cell ['|']
    simp [Text.joinWith, hbars]
  | cell :: next :: cells, _ => by
    obtain ⟨hle, hiff⟩ := bareBars_cells_eq_iff (List.cons_ne_nil next cells)
    have hcut : Text.joinWith [' ', '|', ' '] (cell :: next :: cells) ++ [' ', '|'] =
        cell ++ ' ' :: ('|' :: ' ' :: (Text.joinWith [' ', '|', ' '] (next :: cells) ++ [' ', '|'])) := by
      simp [Text.joinWith]
    rw [hcut, bareBars, bareBarsFrom_append_blank, bareBars_bar_blank, ← bareBars, List.forall_mem_cons, ← hiff,
      List.length_cons]
    omega

theorem bareBars_row_eq_iff (hne : cells ≠ []) :
    bareBars (row cells) = cells.length + 1 ↔ ∀ cell ∈ cells, bareBars cell = 0 := by
  have hrow : row cells = '|' :: ' ' :: (Text.joinWith [' ', '|', ' '] cells ++ [' ', '|']) := rfl
  rw [hrow, bareBars_bar_blank, ← (bareBars_cells_eq_iff hne).2]
  omega

theorem lineFeed_mem_row_iff : '\n' ∈ row cells ↔ ∃ cell ∈ cells, '\n' ∈ cell := by
  simp [row, Text.mem_joinWith_iff]

/-- **A row has its form exactly if every cell is plain.** -/
theorem isRow_row_iff (hne : cells ≠ []) : IsRow cells.length (row cells) ↔ ∀ cell ∈ cells, IsPlain cell := by
  rw [IsRow, bareBars_row_eq_iff hne, lineFeed_mem_row_iff]
  simp only [not_exists, not_and, IsPlain]
  exact ⟨fun h cell hcell => ⟨h.1 cell hcell, h.2 cell hcell⟩,
    fun h => ⟨fun cell hcell => (h cell hcell).1, fun cell hcell => (h cell hcell).2⟩⟩

/-! ## Reports -/

/-- The lines of a table: those at its head, and one for each record. -/
structure IsTable (columns records : Nat) (table : List Text) : Prop where
  length_eq : table.length = records + 2
  bars : ∀ line ∈ table, bareBars line = columns + 1

/-- The lines of a report with two tables. -/
def layout (routeTable linkTable : List Text) : List Text :=
  ["## Routes".toList, []] ++ routeTable ++ [[], [], "## Link Scan".toList, []] ++ linkTable ++ [[]]

/-- The report has its headings and its two tables. -/
def WellFormed (audit : Audit) (report : Text) : Prop :=
  ∃ routeTable linkTable, Text.lines report = layout routeTable linkTable ∧
    IsTable (routeColumns audit.roles).length audit.routes.length routeTable ∧
    IsTable linkColumns.length audit.links.length linkTable

/-- Nothing that a cell shows of the site ends the cell or its line. -/
@[mk_iff]
structure PlainCells (audit : Audit) : Prop where
  roles : ∀ role ∈ audit.roles, IsPlain role
  routes : ∀ route ∈ audit.routes, IsPlain route.template ∧ IsPlain route.file
  links : ∀ link ∈ audit.links, IsPlain link.file ∧ bareBars link.scheme = 0

instance (audit : Audit) : Decidable (PlainCells audit) :=
  decidable_of_iff' _ (plainCells_iff audit)

theorem length_layout (routeTable linkTable : List Text) :
    (layout routeTable linkTable).length = routeTable.length + linkTable.length + 7 := by
  simp [layout]
  omega

theorem mem_layout_iff {line : Text} {routeTable linkTable : List Text} :
    line ∈ layout routeTable linkTable ↔ line ∈ routeTable ∨ line ∈ linkTable ∨ line ∈ layout [] [] := by
  simp only [layout, List.mem_append]
  tauto

theorem layout_inj {routeTable linkTable routeTable' linkTable' : List Text}
    (hlength : routeTable.length = routeTable'.length)
    (h : layout routeTable linkTable = layout routeTable' linkTable') :
    routeTable = routeTable' ∧ linkTable = linkTable' := by
  simp only [layout, List.append_assoc, List.append_cancel_left_eq] at h
  obtain ⟨hroutes, hrest⟩ := List.append_inj h hlength
  exact ⟨hroutes, by simpa using hrest⟩

theorem lines_joinWith {lines : List Text} (hne : lines ≠ []) :
    Text.lines (Text.joinWith ['\n'] lines ++ ['\n']) = lines.flatMap (Text.splitOn '\n') := by
  rw [Text.lines_append_feed, Text.splitOn_joinWith_eq_flatMap hne]

theorem lineFeed_notMem_of_length (lines : List Text)
    (h : (lines.flatMap (Text.splitOn '\n')).length = lines.length) : ∀ line ∈ lines, '\n' ∉ line := by
  have hcount : lines.flatten.count '\n' = 0 := by
    have hlength := Text.length_flatMap_splitOn '\n' lines
    omega
  intro line hline hfeed
  exact List.count_eq_zero.1 hcount (List.mem_flatten_of_mem hline hfeed)

/-- The lines of the routes table. -/
def routeTable (audit : Audit) : List Text :=
  head (routeColumns audit.roles) ++ audit.routes.map fun route => row (routeCells audit.roles route)

theorem length_routeTable (audit : Audit) : (routeTable audit).length = audit.routes.length + 2 := by
  simp [routeTable, head]

/-- Where the tables have as many lines as there are records, the report has its form
    exactly if all their lines do. -/
theorem wellFormed_iff_isRow {rows : List Text} (hlength : rows.length = audit.links.length) :
    WellFormed audit (Text.joinWith ['\n'] (layout (routeTable audit) (head linkColumns ++ rows)) ++ ['\n']) ↔
      (∀ line ∈ routeTable audit, IsRow (routeColumns audit.roles).length line) ∧
        ∀ line ∈ head linkColumns ++ rows, IsRow linkColumns.length line := by
  have hlinks : (head linkColumns ++ rows).length = audit.links.length + 2 := by
    simp [head, hlength]
  have hne : layout (routeTable audit) (head linkColumns ++ rows) ≠ [] := by simp [layout]
  rw [WellFormed, lines_joinWith hne]
  constructor
  · rintro ⟨routes, links, hlines, hroutes, htable⟩
    -- The report has as many lines as were joined, so none of these was cut.
    have hfeeds := lineFeed_notMem_of_length (layout (routeTable audit) (head linkColumns ++ rows)) <| by
      rw [hlines, length_layout, length_layout, hroutes.length_eq, htable.length_eq, length_routeTable, hlinks]
    rw [Text.flatMap_splitOn_of_notMem hfeeds] at hlines
    obtain ⟨rfl, rfl⟩ := layout_inj (by rw [length_routeTable, hroutes.length_eq]) hlines
    exact ⟨fun line hline => ⟨hfeeds line (mem_layout_iff.2 (Or.inl hline)), hroutes.bars line hline⟩,
      fun line hline => ⟨hfeeds line (mem_layout_iff.2 (Or.inr (Or.inl hline))), htable.bars line hline⟩⟩
  · rintro ⟨hroutes, htable⟩
    have hfeeds : ∀ line ∈ layout (routeTable audit) (head linkColumns ++ rows), '\n' ∉ line := by
      intro line hline
      rcases mem_layout_iff.1 hline with hline | hline | hline
      · exact (hroutes line hline).1
      · exact (htable line hline).1
      · have hfixed : ∀ line ∈ layout [] [], '\n' ∉ line := by decide
        exact hfixed line hline
    exact ⟨_, _, Text.flatMap_splitOn_of_notMem hfeeds,
      ⟨length_routeTable audit, fun line hline => (hroutes line hline).2⟩,
      ⟨hlinks, fun line hline => (htable line hline).2⟩⟩

/-! ## Cells -/

theorem isPlain_yesNo (holds : Bool) : IsPlain (yesNo holds) := by
  cases holds <;> decide

theorem isRow_head_iff {columns : List Text} (hne : columns ≠ []) :
    (∀ line ∈ head columns, IsRow columns.length line) ↔ ∀ column ∈ columns, IsPlain column := by
  have hdashes : IsRow columns.length (row (columns.map fun _ => ['-', '-', '-'])) := by
    have hdash : IsPlain ['-', '-', '-'] := by decide
    have hrow : IsRow (columns.map fun _ => ['-', '-', '-']).length (row (columns.map fun _ => ['-', '-', '-'])) :=
      (isRow_row_iff (by simpa using hne)).2 (List.forall_mem_map.2 fun _ _ => hdash)
    rwa [List.length_map] at hrow
  rw [head, List.forall_mem_cons, List.forall_mem_singleton, isRow_row_iff hne]
  exact and_iff_left hdashes

theorem isPlain_routeColumns_iff {roles : List Text} :
    (∀ column ∈ routeColumns roles, IsPlain column) ↔ ∀ role ∈ roles, IsPlain role := by
  have hfixed : ∀ column ∈ routeColumns [], IsPlain column := by decide
  constructor
  · intro h role hrole
    exact h role (by simp [routeColumns, hrole])
  · intro h column hcolumn
    by_cases hrole : column ∈ roles
    · exact h column hrole
    · exact hfixed column (by simpa [routeColumns, hrole] using hcolumn)

theorem isRow_route_iff (roles : List Text) (route : Route) :
    IsRow (routeColumns roles).length (row (routeCells roles route)) ↔
      IsPlain route.template ∧ IsPlain route.file := by
  have hroles : ∀ cell ∈ roles.map fun role => if route.hasRole role then yesNo true else ['-'], IsPlain cell := by
    refine List.forall_mem_map.2 fun role _ => ?_
    split
    · exact isPlain_yesNo true
    · decide
  rw [← length_routeCells roles route, isRow_row_iff (by simp [routeCells]), routeCells, List.forall_mem_append,
    List.forall_mem_append, List.forall_mem_cons, List.forall_mem_cons, List.forall_mem_singleton,
    List.forall_mem_singleton]
  constructor
  · rintro ⟨⟨⟨htemplate, -⟩, -⟩, hfile⟩
    exact ⟨htemplate, hfile⟩
  · rintro ⟨htemplate, hfile⟩
    exact ⟨⟨⟨htemplate, isPlain_yesNo _, isPlain_yesNo _⟩, hroles⟩, hfile⟩

theorem isRow_routeTable_iff (audit : Audit) :
    (∀ line ∈ routeTable audit, IsRow (routeColumns audit.roles).length line) ↔
      (∀ role ∈ audit.roles, IsPlain role) ∧ ∀ route ∈ audit.routes, IsPlain route.template ∧ IsPlain route.file := by
  rw [routeTable, List.forall_mem_append, isRow_head_iff (by simp [routeColumns]), isPlain_routeColumns_iff,
    List.forall_mem_map]
  simp only [isRow_route_iff]

/-! ## Links -/

theorem isPlain_ofInt (n : Int) : IsPlain (Text.ofInt n) :=
  isPlain_of_notMem (mt Text.eq_or_isDigit_of_mem_ofInt (by decide)) (mt Text.eq_or_isDigit_of_mem_ofInt (by decide))

theorem isPlain_emphasis_iff (idiom : Link.Idiom) (destination : Text) :
    IsPlain ((emphasis idiom).1 ++ escapeBars destination ++ (emphasis idiom).2) ↔ '\n' ∉ destination := by
  have hmarks : ∀ mark ∈ [(emphasis idiom).1, (emphasis idiom).2], '\n' ∉ mark ∧ '|' ∉ mark := by
    cases idiom <;> decide
  obtain ⟨⟨hopen, hopenBar⟩, hclose, hcloseBar⟩ := by simpa using hmarks
  have hbars : bareBars ((emphasis idiom).1 ++ escapeBars destination ++ (emphasis idiom).2) = 0 := by
    simp [bareBars, bareBarsFrom_append, bareBarsFrom_eq_zero, hopenBar, hcloseBar]
  rw [IsPlain, and_iff_left hbars]
  simp [hopen, hclose, lineFeed_mem_escapeBars_iff]

theorem exists_verdictCell (verdict : Link.Verdict) :
    ∃ cell, verdictCell verdict.label = .ok cell ∧ IsPlain cell := by
  cases verdict <;> exact ⟨_, rfl, by decide⟩

theorem isRow_link_iff (file : Text) (number : Int) (idiom : Link.Idiom) (scheme : Text) {destination verdict : Text}
    (hdestination : '\n' ∉ destination) (hverdict : IsPlain verdict) :
    IsRow linkColumns.length (row [file, Text.ofInt number, idiom.label, scheme,
        (emphasis idiom).1 ++ escapeBars destination ++ (emphasis idiom).2, verdict]) ↔
      IsPlain file ∧ IsPlain scheme := by
  have hidiom : IsPlain idiom.label := by cases idiom <;> decide
  refine (isRow_row_iff (List.cons_ne_nil _ _)).trans ?_
  simp only [List.forall_mem_cons, isPlain_ofInt, hidiom, isPlain_emphasis_iff, hdestination, hverdict]
  simp

/-- The line of a link found in a text has its form exactly if the file is plain and
    the scheme has no bare bar. -/
theorem exists_linkRow (hraw : '\n' ∉ raw) :
    ∃ line, linkRow (Link.ofDestination catalogue file number idiom raw) = .ok line ∧
      (IsRow linkColumns.length line ↔
        IsPlain file ∧ bareBars (Link.ofDestination catalogue file number idiom raw).scheme = 0) := by
  have hdestination : '\n' ∉ Text.trim raw := fun hfeed => hraw (Text.trim_subset raw hfeed)
  have hscheme := Link.lineFeed_notMem_scheme hdestination
  have hidiom : Link.Idiom.ofLabel? idiom.label = some idiom := by cases idiom <;> decide
  obtain ⟨cell, hcell, hplain⟩ := exists_verdictCell (Link.Destination.verdict catalogue (Text.trim raw))
  have hrow := isRow_link_iff file number idiom (Link.Destination.scheme (Text.trim raw)) hdestination hplain
  refine ⟨_, ?_, hrow.trans (and_congr_right fun _ => and_iff_right hscheme)⟩
  simp [linkRow, Link.ofDestination, destinationCell, hidiom, hcell, bind, Except.bind]

theorem exists_linkRows {holds : Link → Prop} : ∀ {links : List Link},
    (∀ link ∈ links, ∃ line, linkRow link = .ok line ∧ (IsRow linkColumns.length line ↔ holds link)) →
    ∃ rows, linkRows links = .ok rows ∧ rows.length = links.length ∧
      ((∀ line ∈ rows, IsRow linkColumns.length line) ↔ ∀ link ∈ links, holds link)
  | [], _ => ⟨[], rfl, rfl, by simp⟩
  | link :: links, h => by
    obtain ⟨line, hline, hrow⟩ := h link (by simp)
    obtain ⟨rows, hrows, hlength, hall⟩ := exists_linkRows fun other hother => h other (List.mem_cons_of_mem _ hother)
    refine ⟨line :: rows, ?_, congrArg (· + 1) hlength, ?_⟩
    · simp [linkRows, hline, hrows, bind, Except.bind]
    · rw [List.forall_mem_cons, List.forall_mem_cons, hrow, hall]

/-! ## Audits -/

/-- **Of an audit whose links stand in lines there is a report, and it has its form
    exactly if every cell is plain.** -/
theorem wellFormed_iff_plainCells
    (hlinks : ∀ link ∈ audit.links, ∃ catalogue file number idiom raw, '\n' ∉ raw ∧
      link = Link.ofDestination catalogue file number idiom raw) :
    ∃ report, render audit = .ok report ∧ (WellFormed audit report ↔ PlainCells audit) := by
  obtain ⟨rows, hrows, hlength, hall⟩ : ∃ rows, linkRows audit.links = .ok rows ∧ rows.length = audit.links.length ∧
      ((∀ line ∈ rows, IsRow linkColumns.length line) ↔
        ∀ link ∈ audit.links, IsPlain link.file ∧ bareBars link.scheme = 0) := by
    refine exists_linkRows fun link hlink => ?_
    obtain ⟨catalogue, file, number, idiom, raw, hraw, rfl⟩ := hlinks link hlink
    exact exists_linkRow hraw
  have hcolumns : ∀ column ∈ linkColumns, IsPlain column := by decide
  have htable : (∀ line ∈ head linkColumns ++ rows, IsRow linkColumns.length line) ↔
      ∀ link ∈ audit.links, IsPlain link.file ∧ bareBars link.scheme = 0 := by
    rw [List.forall_mem_append, hall]
    exact and_iff_right ((isRow_head_iff (by simp [linkColumns])).2 hcolumns)
  refine ⟨Text.joinWith ['\n'] (layout (routeTable audit) (head linkColumns ++ rows)) ++ ['\n'], ?_, ?_⟩
  · simp [render, hrows, layout, routeTable, routesSection, bind, Except.bind]
  · rw [wellFormed_iff_isRow hlength, isRow_routeTable_iff, htable, plainCells_iff, and_assoc]

theorem exists_of_mem_links [Platform] (h : Audit.ofTree tree root rules = .ok audit) :
    ∀ link ∈ audit.links, ∃ catalogue file number idiom raw, '\n' ∉ raw ∧
      link = Link.ofDestination catalogue file number idiom raw := by
  rw [Audit.ofTree] at h
  split at h
  · exact absurd h (by simp)
  · simp only [bind_eq_ok_iff, Except.ok.injEq] at h
    obtain ⟨pages, -, linked, -, rfl⟩ := h
    intro link hlink
    exact ⟨_, Link.exists_of_mem_ofSources ((List.mergeSort_perm _ _).mem_iff.1 hlink)⟩

/-- **A tree that has an audit has a report, and the report has its form exactly if
    every cell is plain.** -/
theorem render_wellFormed_iff [Platform] (h : Audit.ofTree tree root rules = .ok audit) :
    ∃ report, render audit = .ok report ∧ (WellFormed audit report ↔ PlainCells audit) :=
  wellFormed_iff_plainCells (exists_of_mem_links h)

/-! ## One page -/

/-- The audit of a working directory with one page. -/
def auditOf [Platform] (text : Text) : Except Audit.Fault Audit :=
  Audit.ofTree ((Tree.emptyAt [['w']]).put [['w'], "a.razor".toList] (.file (Text.Utf8.encode text))) ⟨.relative, []⟩ []

/-- The audit of a page that declares a template and holds some links. -/
def declaring (template : Text) (links : List Link) : Audit :=
  ⟨[⟨template, true, false, [], "a.razor".toList⟩], [], links⟩

/-- A link in the second line of the page. -/
def linkTo (destination scheme : Text) : Link :=
  ⟨"a.razor".toList, 2, destination, "href".toList, scheme, "unknown".toList⟩

section
open scoped Platform.Usual

/-- A bar in a destination does no harm. -/
theorem render_wellFormed_barred :
    auditOf "@page \"/\"\n<a href=\"/a|b\">".toList =
        .ok (declaring ['/'] [linkTo "/a|b".toList "relative".toList]) ∧
      ∃ report, render (declaring ['/'] [linkTo "/a|b".toList "relative".toList]) = .ok report ∧
        WellFormed (declaring ['/'] [linkTo "/a|b".toList "relative".toList]) report := by
  have haudit : auditOf "@page \"/\"\n<a href=\"/a|b\">".toList =
      .ok (declaring ['/'] [linkTo "/a|b".toList "relative".toList]) := by decide +kernel
  obtain ⟨report, hreport, hiff⟩ := render_wellFormed_iff haudit
  exact ⟨haudit, report, hreport, hiff.2 (by decide)⟩

end

theorem exists_not_wellFormed [Platform] {text : Text} (h : auditOf text = .ok audit) (hplain : ¬ PlainCells audit) :
    ∃ report, render audit = .ok report ∧ ¬ WellFormed audit report := by
  obtain ⟨report, hreport, hiff⟩ := wellFormed_iff_plainCells (exists_of_mem_links h)
  exact ⟨report, hreport, mt hiff.1 hplain⟩

section
open scoped Platform.Usual

/-- A bar in a template or a scheme shifts cells, and a line feed in a template breaks
    a row. -/
theorem bars_and_feeds_break_tables :
    (∃ audit report, auditOf "@page \"/a|b\"".toList = .ok audit ∧ render audit = .ok report ∧
        ¬ WellFormed audit report) ∧
      (∃ audit report, auditOf "@page \"/a\nb\"".toList = .ok audit ∧ render audit = .ok report ∧
        ¬ WellFormed audit report) ∧
      ∃ audit report, auditOf "@page \"/\"\n<a href=\"a|b:c\">".toList = .ok audit ∧ render audit = .ok report ∧
        ¬ WellFormed audit report := by
  have hbar : auditOf "@page \"/a|b\"".toList = .ok (declaring "/a|b".toList []) := by decide +kernel
  have hfeed : auditOf "@page \"/a\nb\"".toList = .ok (declaring "/a\nb".toList []) := by decide +kernel
  have hscheme : auditOf "@page \"/\"\n<a href=\"a|b:c\">".toList =
      .ok (declaring ['/'] [linkTo "a|b:c".toList "a|b".toList]) := by decide +kernel
  obtain ⟨first, hfirst⟩ := exists_not_wellFormed hbar (by decide)
  obtain ⟨second, hsecond⟩ := exists_not_wellFormed hfeed (by decide)
  obtain ⟨third, hthird⟩ := exists_not_wellFormed hscheme (by decide)
  exact ⟨⟨_, first, hbar, hfirst⟩, ⟨_, second, hfeed, hsecond⟩, _, third, hscheme, hthird⟩

end

end SiteAudit.Report.Markdown
