/-
  The order of rule files, one in a directory and one further below it.

  Rule files are taken in the order of their paths, name by name.  The path of the
  outer file goes on with the name of rule files where that of the nested one goes
  on with the name of a directory, so these two names settle which file is first.

  * `sourcedLines`: the lines of rule files, each with the file it comes from.
  * `sourcedLines_pairwise`: they are in the order of their files.
  * `nested_lines_follow`: the lines of a nested file come after those of the outer
    one, unless that directory's name is before the name of rule files; then they come
    first, and the outer file has its way.
  * `hidden_directory_overruled`: the name of a hidden directory can be.
-/
import SiteAudit.Proofs.Exclude.Precedence
import SiteAudit.Proofs.Files.Below

namespace SiteAudit.Exclude

open Files

variable {tree : Tree} {root first second : Path} {given lines : List Text} {name : Text}
  {paths : List Path} {sourced : List (Path × Text)}

/-! ## Lines and their files -/

/-- The lines of rule files in order, each with its file. -/
def sourcedLines (tree : Tree) (root : Path) : List Path → Except Source.Unreadable (List (Path × Text))
  | [] => .ok []
  | path :: paths => do
    let own ← linesOfFile tree root path
    let others ← sourcedLines tree root paths
    .ok (own.map (path, ·) ++ others)

theorem linesOfFiles_eq_ok_iff : ∀ {paths : List Path} {lines : List Text},
    linesOfFiles tree root paths = .ok lines ↔
      ∃ sourced, sourcedLines tree root paths = .ok sourced ∧ lines = sourced.map (·.2)
  | [], lines => by simp [linesOfFiles, sourcedLines, eq_comm]
  | path :: paths, lines => by
    rw [linesOfFiles, sourcedLines]
    simp only [bind_eq_ok_iff, linesOfFiles_eq_ok_iff, Except.ok.injEq]
    constructor
    · rintro ⟨own, hown, _, ⟨sourced, hsourced, rfl⟩, rfl⟩
      exact ⟨_, ⟨own, hown, sourced, hsourced, rfl⟩, by simp [Function.comp_def]⟩
    · rintro ⟨_, ⟨own, hown, sourced, hsourced, rfl⟩, rfl⟩
      exact ⟨own, hown, _, ⟨sourced, hsourced, rfl⟩, by simp [Function.comp_def]⟩

theorem mem_of_sourcedLines : ∀ {paths : List Path} {sourced : List (Path × Text)},
    sourcedLines tree root paths = .ok sourced → ∀ line ∈ sourced, line.1 ∈ paths
  | [], sourced, h, line, hline => by
    obtain rfl : [] = sourced := Except.ok.inj h
    simp at hline
  | path :: paths, sourced, h, line, hline => by
    simp only [sourcedLines, bind_eq_ok_iff, Except.ok.injEq] at h
    obtain ⟨own, -, others, hothers, rfl⟩ := h
    rcases List.mem_append.1 hline with hline | hline
    · obtain ⟨_, -, rfl⟩ := List.mem_map.1 hline
      simp
    · exact List.mem_cons_of_mem _ (mem_of_sourcedLines hothers line hline)

/-! ## Order -/

theorem ruleFiles_pairwise (tree : Tree) (root : Path) :
    (ruleFiles tree root).Pairwise fun a b => compare a.parts b.parts = .lt :=
  (Tree.pathsBelow_pairwise tree root).filter _

/-- Lines are in the order of their files, those of one file next to each other. -/
theorem sourcedLines_pairwise : ∀ {paths : List Path} {sourced : List (Path × Text)},
    (paths.Pairwise fun a b => compare a.parts b.parts = .lt) →
    sourcedLines tree root paths = .ok sourced →
      sourced.Pairwise fun a b => compare a.1.parts b.1.parts ≠ .gt
  | [], sourced, _, h => by
    obtain rfl : [] = sourced := Except.ok.inj h
    exact .nil
  | path :: paths, sourced, hpaths, h => by
    simp only [sourcedLines, bind_eq_ok_iff, Except.ok.injEq] at h
    obtain ⟨own, -, others, hothers, rfl⟩ := h
    obtain ⟨hpath, hpaths⟩ := List.pairwise_cons.1 hpaths
    refine List.pairwise_append.2 ⟨?_, sourcedLines_pairwise hpaths hothers, ?_⟩
    · exact List.pairwise_map.2 (List.pairwise_of_forall fun _ _ => by simp)
    · intro a ha b hb
      obtain ⟨_, -, rfl⟩ := List.mem_map.1 ha
      simp [hpath b.1 (mem_of_sourcedLines hothers b hb)]

/-- All lines of the first file stand before all lines of the second. -/
def LinesBefore (sourced : List (Path × Text)) (first second : Path) : Prop :=
  sourced.Pairwise fun a b => ¬ (a.1 = second ∧ b.1 = first)

theorem linesBefore_of_lt (hsourced : sourced.Pairwise fun a b => compare a.1.parts b.1.parts ≠ .gt)
    (hlt : compare first.parts second.parts = .lt) : LinesBefore sourced first second := by
  refine hsourced.imp fun {a b} hle => ?_
  rintro ⟨rfl, rfl⟩
  exact hle (Std.OrientedCmp.gt_of_lt hlt)

/-! ## Nested files -/

/-- The rule file of a directory below a root. -/
def ruleFileOf (root : Path) (directory : List Text) : Path :=
  root.below (directory ++ [ruleFileName])

theorem exists_ruleFileOf (h : first ∈ ruleFiles tree root) : ∃ directory, first = ruleFileOf root directory := by
  obtain ⟨hbelow, hname⟩ := List.mem_filter.1 h
  rw [Tree.pathsBelow] at hbelow
  split at hbelow
  · obtain ⟨names, hnames, rfl⟩ := List.mem_map.1 hbelow
    have hne := (Tree.mem_namesBelow_iff.1 hnames).1
    have hlast : names.getLast hne = ruleFileName := by
      have hfile := (Bool.and_eq_true_iff.1 hname).1
      simpa [Path.name, Path.below, List.getLast?_append, List.getLast?_eq_some_getLast hne] using hfile
    exact ⟨names.dropLast, by rw [ruleFileOf, ← hlast, List.dropLast_concat_getLast]⟩
  · simp at hbelow

/-- One name settles the order of two rule files. -/
theorem compare_ruleFileOf (root : Path) (directory more : List Text) (name : Text) :
    compare (ruleFileOf root directory).parts (ruleFileOf root (directory ++ name :: more)).parts =
      (compare ruleFileName name).then .lt := by
  have hshort : compare ([] : List Text) (more ++ [ruleFileName]) = .lt := by
    cases more <;> rfl
  simp only [ruleFileOf, Path.below, Tree.compare_append, List.append_assoc, List.cons_append,
    List.compare_cons_cons, hshort]

/-- **The lines of a nested rule file follow those of an outer one, unless a name on
    the way is before the name of rule files.**  The lines of the rules are those given,
    and then those of the rule files.  Of two files, one in a directory and one further
    below it, the name below the directory settles which is first. -/
theorem nested_lines_follow [Platform] (h : linesOfTree tree root given true = .ok lines) :
    ∃ sourced, sourcedLines tree root (ruleFiles tree root) = .ok sourced ∧
      lines = given ++ sourced.map (·.2) ∧
      (∀ line ∈ sourced, ∃ directory, line.1 = ruleFileOf root directory) ∧
      ∀ directory name more,
        (compare name ruleFileName ≠ .lt →
          LinesBefore sourced (ruleFileOf root directory) (ruleFileOf root (directory ++ name :: more))) ∧
        (compare name ruleFileName = .lt →
          LinesBefore sourced (ruleFileOf root (directory ++ name :: more)) (ruleFileOf root directory)) := by
  simp only [linesOfTree, if_true] at h
  split at h
  · cases h
  · obtain ⟨fileLines, hfileLines, rfl⟩ := map_eq_ok_iff.1 h
    obtain ⟨sourced, hsourced, rfl⟩ := linesOfFiles_eq_ok_iff.1 (mapError_eq_ok_iff.1 hfileLines)
    have hordered := sourcedLines_pairwise (ruleFiles_pairwise tree root) hsourced
    refine ⟨sourced, hsourced, rfl, fun line hline => exists_ruleFileOf (mem_of_sourcedLines hsourced line hline),
      fun directory name more => ⟨fun hname => ?_, fun hname => ?_⟩⟩
    · refine linesBefore_of_lt hordered ?_
      rw [compare_ruleFileOf]
      -- Where the names are the same, the shorter path is first.
      cases hcompare : compare ruleFileName name with
      | lt => rfl
      | eq => rfl
      | gt => exact absurd (Std.OrientedCmp.lt_of_gt hcompare) hname
    · refine linesBefore_of_lt hordered (Std.OrientedCmp.lt_of_gt ?_)
      rw [compare_ruleFileOf, Std.OrientedCmp.gt_of_lt hname]
      rfl

/-- A site whose rule file leaves out pages, all but one below a directory. -/
def keepingOneIn (name : Text) : Tree :=
  (((Tree.emptyAt [['w']]).put [['w'], ruleFileName] (.file (Text.Utf8.encode "*.html".toList))).put
    [['w'], name] .directory).put [['w'], name, ruleFileName] (.file (Text.Utf8.encode "!kept.html".toList))

section
open scoped Platform.Usual

/-- The line of the rule file in `web` follows that of the outer one. -/
theorem nested_lines_follow_web :
    linesOfTree (keepingOneIn "web".toList) ⟨.relative, []⟩ [] true =
        .ok ["*.html".toList, "!/web/**/kept.html".toList] ∧
      LinesBefore
        [(ruleFileOf ⟨.relative, []⟩ [], "*.html".toList),
          (ruleFileOf ⟨.relative, []⟩ ["web".toList], "!/web/**/kept.html".toList)]
        (ruleFileOf ⟨.relative, []⟩ []) (ruleFileOf ⟨.relative, []⟩ ["web".toList]) := by
  have h : linesOfTree (keepingOneIn "web".toList) ⟨.relative, []⟩ [] true =
      .ok ["*.html".toList, "!/web/**/kept.html".toList] := by decide +kernel
  have hfound : sourcedLines (keepingOneIn "web".toList) ⟨.relative, []⟩
      (ruleFiles (keepingOneIn "web".toList) ⟨.relative, []⟩) =
        .ok [(ruleFileOf ⟨.relative, []⟩ [], "*.html".toList),
          (ruleFileOf ⟨.relative, []⟩ ["web".toList], "!/web/**/kept.html".toList)] := by
    decide +kernel
  obtain ⟨sourced, hsourced, -, -, hfollow⟩ := nested_lines_follow h
  obtain rfl := Except.ok.inj (hsourced.symm.trans hfound)
  exact ⟨h, (hfollow [] "web".toList []).1 (by decide)⟩

/-- The page that a directory wants to keep is kept in `web`, and left out in
    `.github`, whose lines come first. -/
theorem hidden_directory_overruled :
    (rulesOfTree (keepingOneIn "web".toList) ⟨.relative, []⟩ [] true).map
        (excludes · "web/kept.html".toList) = .ok false ∧
      linesOfTree (keepingOneIn ".github".toList) ⟨.relative, []⟩ [] true =
        .ok ["!/.github/**/kept.html".toList, "*.html".toList] ∧
      (rulesOfTree (keepingOneIn ".github".toList) ⟨.relative, []⟩ [] true).map
        (excludes · ".github/kept.html".toList) = .ok true := by
  decide +kernel

end

end SiteAudit.Exclude
